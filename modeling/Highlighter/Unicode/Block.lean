/-!
# Blocks

The named ranges into which Unicode 16 divides the code points.
-/

namespace Highlighter.Unicode.Block

/-- The blocks by name, each with its first and its last code point. -/
def named : List (String × Nat × Nat) :=
  [("inbasiclatin", 0, 127), ("inlatin1supplement", 128, 255), ("inlatinextendeda", 256, 383),
   ("inlatinextendedb", 384, 591), ("inipaextensions", 592, 687),
   ("inspacingmodifierletters", 688, 767), ("incombiningdiacriticalmarks", 768, 879),
   ("ingreekandcoptic", 880, 1023), ("incyrillic", 1024, 1279),
   ("incyrillicsupplement", 1280, 1327), ("inarmenian", 1328, 1423), ("inhebrew", 1424, 1535),
   ("inarabic", 1536, 1791), ("insyriac", 1792, 1871), ("inarabicsupplement", 1872, 1919),
   ("inthaana", 1920, 1983), ("innko", 1984, 2047), ("insamaritan", 2048, 2111),
   ("inmandaic", 2112, 2143), ("insyriacsupplement", 2144, 2159),
   ("inarabicextendedb", 2160, 2207), ("inarabicextendeda", 2208, 2303),
   ("indevanagari", 2304, 2431), ("inbengali", 2432, 2559), ("ingurmukhi", 2560, 2687),
   ("ingujarati", 2688, 2815), ("inoriya", 2816, 2943), ("intamil", 2944, 3071),
   ("intelugu", 3072, 3199), ("inkannada", 3200, 3327), ("inmalayalam", 3328, 3455),
   ("insinhala", 3456, 3583), ("inthai", 3584, 3711), ("inlao", 3712, 3839),
   ("intibetan", 3840, 4095), ("inmyanmar", 4096, 4255), ("ingeorgian", 4256, 4351),
   ("inhanguljamo", 4352, 4607), ("inethiopic", 4608, 4991), ("inethiopicsupplement", 4992, 5023),
   ("incherokee", 5024, 5119), ("inunifiedcanadianaboriginalsyllabics", 5120, 5759),
   ("inogham", 5760, 5791), ("inrunic", 5792, 5887), ("intagalog", 5888, 5919),
   ("inhanunoo", 5920, 5951), ("inbuhid", 5952, 5983), ("intagbanwa", 5984, 6015),
   ("inkhmer", 6016, 6143), ("inmongolian", 6144, 6319),
   ("inunifiedcanadianaboriginalsyllabicsextended", 6320, 6399), ("inlimbu", 6400, 6479),
   ("intaile", 6480, 6527), ("innewtailue", 6528, 6623), ("inkhmersymbols", 6624, 6655),
   ("inbuginese", 6656, 6687), ("intaitham", 6688, 6831),
   ("incombiningdiacriticalmarksextended", 6832, 6911), ("inbalinese", 6912, 7039),
   ("insundanese", 7040, 7103), ("inbatak", 7104, 7167), ("inlepcha", 7168, 7247),
   ("inolchiki", 7248, 7295), ("incyrillicextendedc", 7296, 7311),
   ("ingeorgianextended", 7312, 7359), ("insundanesesupplement", 7360, 7375),
   ("invedicextensions", 7376, 7423), ("inphoneticextensions", 7424, 7551),
   ("inphoneticextensionssupplement", 7552, 7615),
   ("incombiningdiacriticalmarkssupplement", 7616, 7679),
   ("inlatinextendedadditional", 7680, 7935), ("ingreekextended", 7936, 8191),
   ("ingeneralpunctuation", 8192, 8303), ("insuperscriptsandsubscripts", 8304, 8351),
   ("incurrencysymbols", 8352, 8399), ("incombiningdiacriticalmarksforsymbols", 8400, 8447),
   ("inletterlikesymbols", 8448, 8527), ("innumberforms", 8528, 8591), ("inarrows", 8592, 8703),
   ("inmathematicaloperators", 8704, 8959), ("inmiscellaneoustechnical", 8960, 9215),
   ("incontrolpictures", 9216, 9279), ("inopticalcharacterrecognition", 9280, 9311),
   ("inenclosedalphanumerics", 9312, 9471), ("inboxdrawing", 9472, 9599),
   ("inblockelements", 9600, 9631), ("ingeometricshapes", 9632, 9727),
   ("inmiscellaneoussymbols", 9728, 9983), ("indingbats", 9984, 10175),
   ("inmiscellaneousmathematicalsymbolsa", 10176, 10223), ("insupplementalarrowsa", 10224, 10239),
   ("inbraillepatterns", 10240, 10495), ("insupplementalarrowsb", 10496, 10623),
   ("inmiscellaneousmathematicalsymbolsb", 10624, 10751),
   ("insupplementalmathematicaloperators", 10752, 11007),
   ("inmiscellaneoussymbolsandarrows", 11008, 11263), ("inglagolitic", 11264, 11359),
   ("inlatinextendedc", 11360, 11391), ("incoptic", 11392, 11519),
   ("ingeorgiansupplement", 11520, 11567), ("intifinagh", 11568, 11647),
   ("inethiopicextended", 11648, 11743), ("incyrillicextendeda", 11744, 11775),
   ("insupplementalpunctuation", 11776, 11903), ("incjkradicalssupplement", 11904, 12031),
   ("inkangxiradicals", 12032, 12255), ("inideographicdescriptioncharacters", 12272, 12287),
   ("incjksymbolsandpunctuation", 12288, 12351), ("inhiragana", 12352, 12447),
   ("inkatakana", 12448, 12543), ("inbopomofo", 12544, 12591),
   ("inhangulcompatibilityjamo", 12592, 12687), ("inkanbun", 12688, 12703),
   ("inbopomofoextended", 12704, 12735), ("incjkstrokes", 12736, 12783),
   ("inkatakanaphoneticextensions", 12784, 12799),
   ("inenclosedcjklettersandmonths", 12800, 13055), ("incjkcompatibility", 13056, 13311),
   ("incjkunifiedideographsextensiona", 13312, 19903), ("inyijinghexagramsymbols", 19904, 19967),
   ("incjkunifiedideographs", 19968, 40959), ("inyisyllables", 40960, 42127),
   ("inyiradicals", 42128, 42191), ("inlisu", 42192, 42239), ("invai", 42240, 42559),
   ("incyrillicextendedb", 42560, 42655), ("inbamum", 42656, 42751),
   ("inmodifiertoneletters", 42752, 42783), ("inlatinextendedd", 42784, 43007),
   ("insylotinagri", 43008, 43055), ("incommonindicnumberforms", 43056, 43071),
   ("inphagspa", 43072, 43135), ("insaurashtra", 43136, 43231),
   ("indevanagariextended", 43232, 43263), ("inkayahli", 43264, 43311),
   ("inrejang", 43312, 43359), ("inhanguljamoextendeda", 43360, 43391),
   ("injavanese", 43392, 43487), ("inmyanmarextendedb", 43488, 43519), ("incham", 43520, 43615),
   ("inmyanmarextendeda", 43616, 43647), ("intaiviet", 43648, 43743),
   ("inmeeteimayekextensions", 43744, 43775), ("inethiopicextendeda", 43776, 43823),
   ("inlatinextendede", 43824, 43887), ("incherokeesupplement", 43888, 43967),
   ("inmeeteimayek", 43968, 44031), ("inhangulsyllables", 44032, 55215),
   ("inhanguljamoextendedb", 55216, 55295), ("inhighsurrogates", 55296, 56191),
   ("inhighprivateusesurrogates", 56192, 56319), ("inlowsurrogates", 56320, 57343),
   ("inprivateusearea", 57344, 63743), ("incjkcompatibilityideographs", 63744, 64255),
   ("inalphabeticpresentationforms", 64256, 64335), ("inarabicpresentationformsa", 64336, 65023),
   ("invariationselectors", 65024, 65039), ("inverticalforms", 65040, 65055),
   ("incombininghalfmarks", 65056, 65071), ("incjkcompatibilityforms", 65072, 65103),
   ("insmallformvariants", 65104, 65135), ("inarabicpresentationformsb", 65136, 65279),
   ("inhalfwidthandfullwidthforms", 65280, 65519), ("inspecials", 65520, 65535),
   ("inlinearbsyllabary", 65536, 65663), ("inlinearbideograms", 65664, 65791),
   ("inaegeannumbers", 65792, 65855), ("inancientgreeknumbers", 65856, 65935),
   ("inancientsymbols", 65936, 65999), ("inphaistosdisc", 66000, 66047),
   ("inlycian", 66176, 66207), ("incarian", 66208, 66271), ("incopticepactnumbers", 66272, 66303),
   ("inolditalic", 66304, 66351), ("ingothic", 66352, 66383), ("inoldpermic", 66384, 66431),
   ("inugaritic", 66432, 66463), ("inoldpersian", 66464, 66527), ("indeseret", 66560, 66639),
   ("inshavian", 66640, 66687), ("inosmanya", 66688, 66735), ("inosage", 66736, 66815),
   ("inelbasan", 66816, 66863), ("incaucasianalbanian", 66864, 66927),
   ("invithkuqi", 66928, 67007), ("intodhri", 67008, 67071), ("inlineara", 67072, 67455),
   ("inlatinextendedf", 67456, 67519), ("incypriotsyllabary", 67584, 67647),
   ("inimperialaramaic", 67648, 67679), ("inpalmyrene", 67680, 67711),
   ("innabataean", 67712, 67759), ("inhatran", 67808, 67839), ("inphoenician", 67840, 67871),
   ("inlydian", 67872, 67903), ("inmeroitichieroglyphs", 67968, 67999),
   ("inmeroiticcursive", 68000, 68095), ("inkharoshthi", 68096, 68191),
   ("inoldsoutharabian", 68192, 68223), ("inoldnortharabian", 68224, 68255),
   ("inmanichaean", 68288, 68351), ("inavestan", 68352, 68415),
   ("ininscriptionalparthian", 68416, 68447), ("ininscriptionalpahlavi", 68448, 68479),
   ("inpsalterpahlavi", 68480, 68527), ("inoldturkic", 68608, 68687),
   ("inoldhungarian", 68736, 68863), ("inhanifirohingya", 68864, 68927),
   ("ingaray", 68928, 69007), ("inruminumeralsymbols", 69216, 69247), ("inyezidi", 69248, 69311),
   ("inarabicextendedc", 69312, 69375), ("inoldsogdian", 69376, 69423),
   ("insogdian", 69424, 69487), ("inolduyghur", 69488, 69551), ("inchorasmian", 69552, 69599),
   ("inelymaic", 69600, 69631), ("inbrahmi", 69632, 69759), ("inkaithi", 69760, 69839),
   ("insorasompeng", 69840, 69887), ("inchakma", 69888, 69967), ("inmahajani", 69968, 70015),
   ("insharada", 70016, 70111), ("insinhalaarchaicnumbers", 70112, 70143),
   ("inkhojki", 70144, 70223), ("inmultani", 70272, 70319), ("inkhudawadi", 70320, 70399),
   ("ingrantha", 70400, 70527), ("intulutigalari", 70528, 70655), ("innewa", 70656, 70783),
   ("intirhuta", 70784, 70879), ("insiddham", 71040, 71167), ("inmodi", 71168, 71263),
   ("inmongoliansupplement", 71264, 71295), ("intakri", 71296, 71375),
   ("inmyanmarextendedc", 71376, 71423), ("inahom", 71424, 71503), ("indogra", 71680, 71759),
   ("inwarangciti", 71840, 71935), ("indivesakuru", 71936, 72031),
   ("innandinagari", 72096, 72191), ("inzanabazarsquare", 72192, 72271),
   ("insoyombo", 72272, 72367), ("inunifiedcanadianaboriginalsyllabicsextendeda", 72368, 72383),
   ("inpaucinhau", 72384, 72447), ("indevanagariextendeda", 72448, 72543),
   ("insunuwar", 72640, 72703), ("inbhaiksuki", 72704, 72815), ("inmarchen", 72816, 72895),
   ("inmasaramgondi", 72960, 73055), ("ingunjalagondi", 73056, 73135),
   ("inmakasar", 73440, 73471), ("inkawi", 73472, 73567), ("inlisusupplement", 73648, 73663),
   ("intamilsupplement", 73664, 73727), ("incuneiform", 73728, 74751),
   ("incuneiformnumbersandpunctuation", 74752, 74879), ("inearlydynasticcuneiform", 74880, 75087),
   ("incyprominoan", 77712, 77823), ("inegyptianhieroglyphs", 77824, 78895),
   ("inegyptianhieroglyphformatcontrols", 78896, 78943),
   ("inegyptianhieroglyphsextendeda", 78944, 82943), ("inanatolianhieroglyphs", 82944, 83583),
   ("ingurungkhema", 90368, 90431), ("inbamumsupplement", 92160, 92735), ("inmro", 92736, 92783),
   ("intangsa", 92784, 92879), ("inbassavah", 92880, 92927), ("inpahawhhmong", 92928, 93071),
   ("inkiratrai", 93504, 93567), ("inmedefaidrin", 93760, 93855), ("inmiao", 93952, 94111),
   ("inideographicsymbolsandpunctuation", 94176, 94207), ("intangut", 94208, 100351),
   ("intangutcomponents", 100352, 101119), ("inkhitansmallscript", 101120, 101631),
   ("intangutsupplement", 101632, 101759), ("inkanaextendedb", 110576, 110591),
   ("inkanasupplement", 110592, 110847), ("inkanaextendeda", 110848, 110895),
   ("insmallkanaextension", 110896, 110959), ("innushu", 110960, 111359),
   ("induployan", 113664, 113823), ("inshorthandformatcontrols", 113824, 113839),
   ("insymbolsforlegacycomputingsupplement", 117760, 118463),
   ("inznamennymusicalnotation", 118528, 118735), ("inbyzantinemusicalsymbols", 118784, 119039),
   ("inmusicalsymbols", 119040, 119295), ("inancientgreekmusicalnotation", 119296, 119375),
   ("inkaktoviknumerals", 119488, 119519), ("inmayannumerals", 119520, 119551),
   ("intaixuanjingsymbols", 119552, 119647), ("incountingrodnumerals", 119648, 119679),
   ("inmathematicalalphanumericsymbols", 119808, 120831), ("insuttonsignwriting", 120832, 121519),
   ("inlatinextendedg", 122624, 122879), ("inglagoliticsupplement", 122880, 122927),
   ("incyrillicextendedd", 122928, 123023), ("innyiakengpuachuehmong", 123136, 123215),
   ("intoto", 123536, 123583), ("inwancho", 123584, 123647), ("innagmundari", 124112, 124159),
   ("inolonal", 124368, 124415), ("inethiopicextendedb", 124896, 124927),
   ("inmendekikakui", 124928, 125151), ("inadlam", 125184, 125279),
   ("inindicsiyaqnumbers", 126064, 126143), ("inottomansiyaqnumbers", 126208, 126287),
   ("inarabicmathematicalalphabeticsymbols", 126464, 126719), ("inmahjongtiles", 126976, 127023),
   ("indominotiles", 127024, 127135), ("inplayingcards", 127136, 127231),
   ("inenclosedalphanumericsupplement", 127232, 127487),
   ("inenclosedideographicsupplement", 127488, 127743),
   ("inmiscellaneoussymbolsandpictographs", 127744, 128511), ("inemoticons", 128512, 128591),
   ("inornamentaldingbats", 128592, 128639), ("intransportandmapsymbols", 128640, 128767),
   ("inalchemicalsymbols", 128768, 128895), ("ingeometricshapesextended", 128896, 129023),
   ("insupplementalarrowsc", 129024, 129279),
   ("insupplementalsymbolsandpictographs", 129280, 129535), ("inchesssymbols", 129536, 129647),
   ("insymbolsandpictographsextendeda", 129648, 129791),
   ("insymbolsforlegacycomputing", 129792, 130047),
   ("incjkunifiedideographsextensionb", 131072, 173791),
   ("incjkunifiedideographsextensionc", 173824, 177983),
   ("incjkunifiedideographsextensiond", 177984, 178207),
   ("incjkunifiedideographsextensione", 178208, 183983),
   ("incjkunifiedideographsextensionf", 183984, 191471),
   ("incjkunifiedideographsextensioni", 191472, 192095),
   ("incjkcompatibilityideographssupplement", 194560, 195103),
   ("incjkunifiedideographsextensiong", 196608, 201551),
   ("incjkunifiedideographsextensionh", 201552, 205743), ("intags", 917504, 917631),
   ("invariationselectorssupplement", 917760, 917999),
   ("insupplementaryprivateuseareaa", 983040, 1048575),
   ("insupplementaryprivateuseareab", 1048576, 1114111)]

end Highlighter.Unicode.Block
