import Highlighter.Unicode.Ranges

/-!
# Combining marks

The code points of the general categories of marks, in Unicode 16.
-/

namespace Highlighter.Unicode

/-- Marks that take no room of their own, category Mn. -/
def nonspacingMark : Ranges :=
  [(768, 879, 1), (1155, 1159, 1), (1425, 1469, 1), (1471, 1471, 1), (1473, 1474, 1),
   (1476, 1477, 1), (1479, 1479, 1), (1552, 1562, 1), (1611, 1631, 1), (1648, 1648, 1),
   (1750, 1756, 1), (1759, 1764, 1), (1767, 1768, 1), (1770, 1773, 1), (1809, 1809, 1),
   (1840, 1866, 1), (1958, 1968, 1), (2027, 2035, 1), (2045, 2045, 1), (2070, 2073, 1),
   (2075, 2083, 1), (2085, 2087, 1), (2089, 2093, 1), (2137, 2139, 1), (2199, 2207, 1),
   (2250, 2273, 1), (2275, 2306, 1), (2362, 2364, 2), (2369, 2376, 1), (2381, 2381, 1),
   (2385, 2391, 1), (2402, 2403, 1), (2433, 2433, 1), (2492, 2492, 1), (2497, 2500, 1),
   (2509, 2509, 1), (2530, 2531, 1), (2558, 2558, 1), (2561, 2562, 1), (2620, 2620, 1),
   (2625, 2626, 1), (2631, 2632, 1), (2635, 2637, 1), (2641, 2641, 1), (2672, 2673, 1),
   (2677, 2677, 1), (2689, 2690, 1), (2748, 2748, 1), (2753, 2757, 1), (2759, 2760, 1),
   (2765, 2765, 1), (2786, 2787, 1), (2810, 2815, 1), (2817, 2817, 1), (2876, 2876, 1),
   (2879, 2879, 1), (2881, 2884, 1), (2893, 2893, 1), (2901, 2902, 1), (2914, 2915, 1),
   (2946, 2946, 1), (3008, 3008, 1), (3021, 3021, 1), (3072, 3072, 1), (3076, 3076, 1),
   (3132, 3132, 1), (3134, 3136, 1), (3142, 3144, 1), (3146, 3149, 1), (3157, 3158, 1),
   (3170, 3171, 1), (3201, 3201, 1), (3260, 3260, 1), (3263, 3263, 1), (3270, 3270, 1),
   (3276, 3277, 1), (3298, 3299, 1), (3328, 3329, 1), (3387, 3388, 1), (3393, 3396, 1),
   (3405, 3405, 1), (3426, 3427, 1), (3457, 3457, 1), (3530, 3530, 1), (3538, 3540, 1),
   (3542, 3542, 1), (3633, 3633, 1), (3636, 3642, 1), (3655, 3662, 1), (3761, 3761, 1),
   (3764, 3772, 1), (3784, 3790, 1), (3864, 3865, 1), (3893, 3897, 2), (3953, 3966, 1),
   (3968, 3972, 1), (3974, 3975, 1), (3981, 3991, 1), (3993, 4028, 1), (4038, 4038, 1),
   (4141, 4144, 1), (4146, 4151, 1), (4153, 4154, 1), (4157, 4158, 1), (4184, 4185, 1),
   (4190, 4192, 1), (4209, 4212, 1), (4226, 4226, 1), (4229, 4230, 1), (4237, 4237, 1),
   (4253, 4253, 1), (4957, 4959, 1), (5906, 5908, 1), (5938, 5939, 1), (5970, 5971, 1),
   (6002, 6003, 1), (6068, 6069, 1), (6071, 6077, 1), (6086, 6086, 1), (6089, 6099, 1),
   (6109, 6109, 1), (6155, 6157, 1), (6159, 6159, 1), (6277, 6278, 1), (6313, 6313, 1),
   (6432, 6434, 1), (6439, 6440, 1), (6450, 6450, 1), (6457, 6459, 1), (6679, 6680, 1),
   (6683, 6683, 1), (6742, 6742, 1), (6744, 6750, 1), (6752, 6754, 2), (6757, 6764, 1),
   (6771, 6780, 1), (6783, 6783, 1), (6832, 6845, 1), (6847, 6862, 1), (6912, 6915, 1),
   (6964, 6964, 1), (6966, 6970, 1), (6972, 6972, 1), (6978, 6978, 1), (7019, 7027, 1),
   (7040, 7041, 1), (7074, 7077, 1), (7080, 7081, 1), (7083, 7085, 1), (7142, 7142, 1),
   (7144, 7145, 1), (7149, 7149, 1), (7151, 7153, 1), (7212, 7219, 1), (7222, 7223, 1),
   (7376, 7378, 1), (7380, 7392, 1), (7394, 7400, 1), (7405, 7405, 1), (7412, 7412, 1),
   (7416, 7417, 1), (7616, 7679, 1), (8400, 8412, 1), (8417, 8417, 1), (8421, 8432, 1),
   (11503, 11505, 1), (11647, 11647, 1), (11744, 11775, 1), (12330, 12333, 1), (12441, 12442, 1),
   (42607, 42607, 1), (42612, 42621, 1), (42654, 42655, 1), (42736, 42737, 1), (43010, 43010, 1),
   (43014, 43014, 1), (43019, 43019, 1), (43045, 43046, 1), (43052, 43052, 1), (43204, 43205, 1),
   (43232, 43249, 1), (43263, 43263, 1), (43302, 43309, 1), (43335, 43345, 1), (43392, 43394, 1),
   (43443, 43443, 1), (43446, 43449, 1), (43452, 43453, 1), (43493, 43493, 1), (43561, 43566, 1),
   (43569, 43570, 1), (43573, 43574, 1), (43587, 43587, 1), (43596, 43596, 1), (43644, 43644, 1),
   (43696, 43696, 1), (43698, 43700, 1), (43703, 43704, 1), (43710, 43711, 1), (43713, 43713, 1),
   (43756, 43757, 1), (43766, 43766, 1), (44005, 44005, 1), (44008, 44008, 1), (44013, 44013, 1),
   (64286, 64286, 1), (65024, 65039, 1), (65056, 65071, 1), (66045, 66045, 1), (66272, 66272, 1),
   (66422, 66426, 1), (68097, 68099, 1), (68101, 68102, 1), (68108, 68111, 1), (68152, 68154, 1),
   (68159, 68159, 1), (68325, 68326, 1), (68900, 68903, 1), (68969, 68973, 1), (69291, 69292, 1),
   (69372, 69375, 1), (69446, 69456, 1), (69506, 69509, 1), (69633, 69633, 1), (69688, 69702, 1),
   (69744, 69744, 1), (69747, 69748, 1), (69759, 69761, 1), (69811, 69814, 1), (69817, 69818, 1),
   (69826, 69826, 1), (69888, 69890, 1), (69927, 69931, 1), (69933, 69940, 1), (70003, 70003, 1),
   (70016, 70017, 1), (70070, 70078, 1), (70089, 70092, 1), (70095, 70095, 1), (70191, 70193, 1),
   (70196, 70196, 1), (70198, 70199, 1), (70206, 70206, 1), (70209, 70209, 1), (70367, 70367, 1),
   (70371, 70378, 1), (70400, 70401, 1), (70459, 70460, 1), (70464, 70464, 1), (70502, 70508, 1),
   (70512, 70516, 1), (70587, 70592, 1), (70606, 70610, 2), (70625, 70626, 1), (70712, 70719, 1),
   (70722, 70724, 1), (70726, 70726, 1), (70750, 70750, 1), (70835, 70840, 1), (70842, 70842, 1),
   (70847, 70848, 1), (70850, 70851, 1), (71090, 71093, 1), (71100, 71101, 1), (71103, 71104, 1),
   (71132, 71133, 1), (71219, 71226, 1), (71229, 71229, 1), (71231, 71232, 1), (71339, 71341, 2),
   (71344, 71349, 1), (71351, 71351, 1), (71453, 71455, 2), (71458, 71461, 1), (71463, 71467, 1),
   (71727, 71735, 1), (71737, 71738, 1), (71995, 71996, 1), (71998, 71998, 1), (72003, 72003, 1),
   (72148, 72151, 1), (72154, 72155, 1), (72160, 72160, 1), (72193, 72202, 1), (72243, 72248, 1),
   (72251, 72254, 1), (72263, 72263, 1), (72273, 72278, 1), (72281, 72283, 1), (72330, 72342, 1),
   (72344, 72345, 1), (72752, 72758, 1), (72760, 72765, 1), (72767, 72767, 1), (72850, 72871, 1),
   (72874, 72880, 1), (72882, 72883, 1), (72885, 72886, 1), (73009, 73014, 1), (73018, 73018, 1),
   (73020, 73021, 1), (73023, 73029, 1), (73031, 73031, 1), (73104, 73105, 1), (73109, 73111, 2),
   (73459, 73460, 1), (73472, 73473, 1), (73526, 73530, 1), (73536, 73538, 2), (73562, 73562, 1),
   (78912, 78912, 1), (78919, 78933, 1), (90398, 90409, 1), (90413, 90415, 1), (92912, 92916, 1),
   (92976, 92982, 1), (94031, 94031, 1), (94095, 94098, 1), (94180, 94180, 1),
   (113821, 113822, 1), (118528, 118573, 1), (118576, 118598, 1), (119143, 119145, 1),
   (119163, 119170, 1), (119173, 119179, 1), (119210, 119213, 1), (119362, 119364, 1),
   (121344, 121398, 1), (121403, 121452, 1), (121461, 121461, 1), (121476, 121476, 1),
   (121499, 121503, 1), (121505, 121519, 1), (122880, 122886, 1), (122888, 122904, 1),
   (122907, 122913, 1), (122915, 122916, 1), (122918, 122922, 1), (123023, 123023, 1),
   (123184, 123190, 1), (123566, 123566, 1), (123628, 123631, 1), (124140, 124143, 1),
   (124398, 124399, 1), (125136, 125142, 1), (125252, 125258, 1), (917760, 917999, 1)]

/-- Marks that take room, category Mc. -/
def spacingMark : Ranges :=
  [(2307, 2307, 1), (2363, 2363, 1), (2366, 2368, 1), (2377, 2380, 1), (2382, 2383, 1),
   (2434, 2435, 1), (2494, 2496, 1), (2503, 2504, 1), (2507, 2508, 1), (2519, 2519, 1),
   (2563, 2563, 1), (2622, 2624, 1), (2691, 2691, 1), (2750, 2752, 1), (2761, 2761, 1),
   (2763, 2764, 1), (2818, 2819, 1), (2878, 2880, 2), (2887, 2888, 1), (2891, 2892, 1),
   (2903, 2903, 1), (3006, 3007, 1), (3009, 3010, 1), (3014, 3016, 1), (3018, 3020, 1),
   (3031, 3031, 1), (3073, 3075, 1), (3137, 3140, 1), (3202, 3203, 1), (3262, 3262, 1),
   (3264, 3268, 1), (3271, 3272, 1), (3274, 3275, 1), (3285, 3286, 1), (3315, 3315, 1),
   (3330, 3331, 1), (3390, 3392, 1), (3398, 3400, 1), (3402, 3404, 1), (3415, 3415, 1),
   (3458, 3459, 1), (3535, 3537, 1), (3544, 3551, 1), (3570, 3571, 1), (3902, 3903, 1),
   (3967, 3967, 1), (4139, 4140, 1), (4145, 4145, 1), (4152, 4152, 1), (4155, 4156, 1),
   (4182, 4183, 1), (4194, 4196, 1), (4199, 4205, 1), (4227, 4228, 1), (4231, 4236, 1),
   (4239, 4239, 1), (4250, 4252, 1), (5909, 5909, 1), (5940, 5940, 1), (6070, 6070, 1),
   (6078, 6085, 1), (6087, 6088, 1), (6435, 6438, 1), (6441, 6443, 1), (6448, 6449, 1),
   (6451, 6456, 1), (6681, 6682, 1), (6741, 6743, 2), (6753, 6753, 1), (6755, 6756, 1),
   (6765, 6770, 1), (6916, 6916, 1), (6965, 6965, 1), (6971, 6971, 1), (6973, 6977, 1),
   (6979, 6980, 1), (7042, 7042, 1), (7073, 7073, 1), (7078, 7079, 1), (7082, 7082, 1),
   (7143, 7143, 1), (7146, 7148, 1), (7150, 7150, 1), (7154, 7155, 1), (7204, 7211, 1),
   (7220, 7221, 1), (7393, 7393, 1), (7415, 7415, 1), (12334, 12335, 1), (43043, 43044, 1),
   (43047, 43047, 1), (43136, 43137, 1), (43188, 43203, 1), (43346, 43347, 1), (43395, 43395, 1),
   (43444, 43445, 1), (43450, 43451, 1), (43454, 43456, 1), (43567, 43568, 1), (43571, 43572, 1),
   (43597, 43597, 1), (43643, 43645, 2), (43755, 43755, 1), (43758, 43759, 1), (43765, 43765, 1),
   (44003, 44004, 1), (44006, 44007, 1), (44009, 44010, 1), (44012, 44012, 1), (69632, 69634, 2),
   (69762, 69762, 1), (69808, 69810, 1), (69815, 69816, 1), (69932, 69932, 1), (69957, 69958, 1),
   (70018, 70018, 1), (70067, 70069, 1), (70079, 70080, 1), (70094, 70094, 1), (70188, 70190, 1),
   (70194, 70195, 1), (70197, 70197, 1), (70368, 70370, 1), (70402, 70403, 1), (70462, 70463, 1),
   (70465, 70468, 1), (70471, 70472, 1), (70475, 70477, 1), (70487, 70487, 1), (70498, 70499, 1),
   (70584, 70586, 1), (70594, 70594, 1), (70597, 70597, 1), (70599, 70602, 1), (70604, 70605, 1),
   (70607, 70607, 1), (70709, 70711, 1), (70720, 70721, 1), (70725, 70725, 1), (70832, 70834, 1),
   (70841, 70841, 1), (70843, 70846, 1), (70849, 70849, 1), (71087, 71089, 1), (71096, 71099, 1),
   (71102, 71102, 1), (71216, 71218, 1), (71227, 71228, 1), (71230, 71230, 1), (71340, 71340, 1),
   (71342, 71343, 1), (71350, 71350, 1), (71454, 71454, 1), (71456, 71457, 1), (71462, 71462, 1),
   (71724, 71726, 1), (71736, 71736, 1), (71984, 71989, 1), (71991, 71992, 1), (71997, 71997, 1),
   (72000, 72002, 2), (72145, 72147, 1), (72156, 72159, 1), (72164, 72164, 1), (72249, 72249, 1),
   (72279, 72280, 1), (72343, 72343, 1), (72751, 72751, 1), (72766, 72766, 1), (72873, 72873, 1),
   (72881, 72881, 1), (72884, 72884, 1), (73098, 73102, 1), (73107, 73108, 1), (73110, 73110, 1),
   (73461, 73462, 1), (73475, 73475, 1), (73524, 73525, 1), (73534, 73535, 1), (73537, 73537, 1),
   (90410, 90412, 1), (94033, 94087, 1), (94192, 94193, 1), (119141, 119142, 1),
   (119149, 119154, 1)]

/-- Marks around a character, category Me. -/
def enclosingMark : Ranges :=
  [(1160, 1161, 1), (6846, 6846, 1), (8413, 8416, 1), (8418, 8420, 1), (42608, 42610, 1)]

end Highlighter.Unicode
