/-
# Zones of Africa

The time zone data of Africa, in the form that `Zone.ofRow?` reads.
-/

namespace DynamicContent.Calendar.ZoneTable

/-- The zones of Africa. -/
def africa : String := "
Africa/Abidjan
  LMT=-968 GMT=0
  @ -1830383032b
Africa/Algiers
  LMT=732 PMT=561 WET=0 WEST=3600 CET=3600 CEST=7200
  @ -2486592732b -1855958961c -1689814800d -1680397200c -1665363600d -1648342800c -1635123600d
  -1616893200c -1604278800d -1585443600c -1574038800d -1552266000c -1539997200d -1531443600c
  -956365200d -950486400c -942012000e -812502000f -796262400e -781052400f -766630800e
  -733280400c -439430400e -212029200c 41468400d 54774000c 231724800d 246236400e 259545600f
  275274000e 309740400c 325468800d 341802000c 357523200e
Africa/Bissau
  LMT=-3740 -01=-3600 GMT=0
  @ -1830380400b 157770000c
Africa/Cairo
  LMT=7509 EET=7200 EEST=10800
  @ -2185409109b -929844000c -923108400b -906170400c -892868400b -875844000c -857790000b
  -844308000c -825822000b -812685600c -794199600b -779853600c -762663600b -399088800c
  -386650800b -368330400c -355114800b -336790800c -323654400b -305168400c -292032000b
  -273632400c -260496000b -242096400c -228960000b -210560400c -197424000b -178938000c
  -165801600b -147402000c -134265600b -115866000c -102643200b -84330000c -71107200b -52707600c
  -39484800b -21171600c -7948800b 10364400c 23587200b 41900400c 55123200b 73522800c 86745600b
  105058800c 118281600b 136594800c 149817600b 168130800c 181353600b 199753200c 212976000b
  231289200c 244512000b 262825200c 276048000b 294361200c 307584000b 325983600c 339206400b
  357519600c 370742400b 396399600c 402278400b 426812400c 433814400b 452214000c 465436800b
  483750000c 496972800b 515286000c 528508800b 546822000c 560044800b 578444400c 591667200b
  610412400c 623203200b 641516400c 654739200b 673052400c 686275200b 704674800c 717897600b
  736210800c 749433600b 767746800c 780969600b 799020000c 812322000b 830469600c 843771600b
  861919200c 875221200b 893368800c 906670800b 925423200c 938725200b 956872800c 970174800b
  988322400c 1001624400b 1019772000c 1033074000b 1051221600c 1064523600b 1083276000c
  1096578000b 1114725600c 1128027600b 1146175200c 1158872400b 1177624800c 1189112400b
  1209074400c 1219957200b 1240524000c 1250802000b 1272578400c 1281474000b 1284069600c
  1285880400b 1400191200c 1403816400b 1406844000c 1411678800b
  + 2023 4.5.5:-7200c 10.5.4:75600b
Africa/Casablanca
  LMT=-1820 +00=0 +01=3600
  @ -1773012580b -956361600c -950490000b -942019200c -761187600b -617241600c -605149200b
  -81432000c -71110800b 141264000c 147222000b 199756800c 207702000b 231292800c 244249200b
  265507200c 271033200b 448243200c 504918000b 1212278400c 1220223600b 1243814400c 1250809200b
  1272758400c 1281222000b 1301788800c 1312066800b 1335664800c 1342749600b 1345428000c
  1348970400b 1367114400c 1373162400b 1376100000c 1382839200b 1396144800c 1403920800b
  1406944800c 1414288800b 1427594400c 1434247200b 1437271200c 1445738400b 1459044000c
  1465092000b 1468116000c 1477792800b 1490493600c 1495332000b 1498960800c 1509242400b
  1521943200c 1526176800b 1529200800c 1557021600b 1560045600c 1587261600b 1590890400c
  1618106400b 1621130400c 1648346400b 1651975200c 1679191200b 1682215200c 1710036000b
  1713060000c 1740276000b 1743904800c 1771120800b 1774144800c 1801965600b 1804989600c
  1832205600b 1835834400c 1863050400b 1866074400c 1893290400b 1896919200c 1924135200b
  1927159200c 1954980000b 1958004000c 1985220000b 1988848800c 2016064800b 2019088800c
  2046304800b 2049933600c 2077149600b 2080778400c 2107994400b 2111018400c 2138234400b
  2141863200c 2169079200b 2172103200c 2199924000b 2202948000c 2230164000b 2233792800c
  2261008800b 2264032800c 2291248800b 2294877600c 2322093600b 2325722400c 2352938400b
  2355962400c 2383178400b 2386807200c 2414023200b 2417047200c 2444868000b 2447892000c
  2475108000b 2478736800c 2505952800b 2508976800c 2536192800b 2539821600c 2567037600b
  2570666400c 2597882400b 2600906400c 2628122400b 2631751200c 2658967200b 2661991200c
  2689812000b 2692836000c 2720052000b 2723680800c 2750896800b 2753920800c 2781136800b
  2784765600c 2811981600b 2815610400c 2842826400b 2845850400c 2873066400b 2876695200c
  2903911200b 2906935200c 2934756000b 2937780000c 2964996000b 2968624800c 2995840800b
  2998864800c 3026080800b 3029709600c 3056925600b 3060554400c 3087770400b 3090794400c
  3118010400b 3121639200c 3148855200b 3151879200c 3179700000b 3182724000c 3209940000b
  3213568800c 3240784800b 3243808800c 3271024800b 3274653600c 3301869600b 3305498400c
  3332714400b 3335738400c 3362954400b 3366583200c 3393799200b 3396823200c 3424644000b
  3427668000c 3454884000b 3458512800c 3485728800b 3488752800c 3515968800b 3519597600c
  3546813600b 3549837600c 3577658400b 3580682400c 3607898400b 3611527200c 3638743200b
  3641767200c 3669588000b 3672612000c 3699828000b 3703456800c
Africa/Ceuta
  LMT=-1276 WET=0 WEST=3600 CET=3600 CEST=7200
  @ -2177452800b -1630112400c -1616810400b -1442451600c -1427673600b -1379293200c -1364774400b
  -1348448400c -1333324800b -1316390400c -1301270400b -81432000c -71110800b 141264000c
  147222000b 199756800c 207702000b 231292800c 244249200b 265507200c 271033200b 448243200d
  512528400e 528253200d 543978000e 559702800d 575427600e 591152400d 606877200e 622602000d
  638326800e 654656400d 670381200e 686106000d 701830800e 717555600d 733280400e 749005200d
  764730000e 780454800d 796179600e 811904400d
  + 1996 3.5.0:3600e 10.5.0:3600d
Africa/El_Aaiun
  LMT=-3168 -01=-3600 +00=0 +01=3600
  @ -1136070432b 198291600c 199756800d 207702000c 231292800d 244249200c 265507200d 271033200c
  1212278400d 1220223600c 1243814400d 1250809200c 1272758400d 1281222000c 1301788800d
  1312066800c 1335664800d 1342749600c 1345428000d 1348970400c 1367114400d 1373162400c
  1376100000d 1382839200c 1396144800d 1403920800c 1406944800d 1414288800c 1427594400d
  1434247200c 1437271200d 1445738400c 1459044000d 1465092000c 1468116000d 1477792800c
  1490493600d 1495332000c 1498960800d 1509242400c 1521943200d 1526176800c 1529200800d
  1557021600c 1560045600d 1587261600c 1590890400d 1618106400c 1621130400d 1648346400c
  1651975200d 1679191200c 1682215200d 1710036000c 1713060000d 1740276000c 1743904800d
  1771120800c 1774144800d 1801965600c 1804989600d 1832205600c 1835834400d 1863050400c
  1866074400d 1893290400c 1896919200d 1924135200c 1927159200d 1954980000c 1958004000d
  1985220000c 1988848800d 2016064800c 2019088800d 2046304800c 2049933600d 2077149600c
  2080778400d 2107994400c 2111018400d 2138234400c 2141863200d 2169079200c 2172103200d
  2199924000c 2202948000d 2230164000c 2233792800d 2261008800c 2264032800d 2291248800c
  2294877600d 2322093600c 2325722400d 2352938400c 2355962400d 2383178400c 2386807200d
  2414023200c 2417047200d 2444868000c 2447892000d 2475108000c 2478736800d 2505952800c
  2508976800d 2536192800c 2539821600d 2567037600c 2570666400d 2597882400c 2600906400d
  2628122400c 2631751200d 2658967200c 2661991200d 2689812000c 2692836000d 2720052000c
  2723680800d 2750896800c 2753920800d 2781136800c 2784765600d 2811981600c 2815610400d
  2842826400c 2845850400d 2873066400c 2876695200d 2903911200c 2906935200d 2934756000c
  2937780000d 2964996000c 2968624800d 2995840800c 2998864800d 3026080800c 3029709600d
  3056925600c 3060554400d 3087770400c 3090794400d 3118010400c 3121639200d 3148855200c
  3151879200d 3179700000c 3182724000d 3209940000c 3213568800d 3240784800c 3243808800d
  3271024800c 3274653600d 3301869600c 3305498400d 3332714400c 3335738400d 3362954400c
  3366583200d 3393799200c 3396823200d 3424644000c 3427668000d 3454884000c 3458512800d
  3485728800c 3488752800d 3515968800c 3519597600d 3546813600c 3549837600d 3577658400c
  3580682400d 3607898400c 3611527200d 3638743200c 3641767200d 3669588000c 3672612000d
  3699828000c 3703456800d
Africa/Johannesburg
  LMT=6720 SAST=5400 SAST=7200 SAST=10800
  @ -2458173120b -2109288600c -860976000d -845254800c -829526400d -813805200c
Africa/Juba
  LMT=7588 CAT=7200 CAST=10800 EAT=10800
  @ -1230775588b 10360800c 24786000b 41810400c 56322000b 73432800c 87944400b 104882400c
  119480400b 136332000c 151016400b 167781600c 182552400b 199231200c 214174800b 230680800c
  245710800b 262735200c 277246800b 294184800c 308782800b 325634400c 340405200b 357084000c
  371941200b 388533600c 403477200b 419983200c 435013200b 452037600c 466635600b 483487200c
  498171600b 947930400d 1612126800b
Africa/Khartoum
  LMT=7808 CAT=7200 CAST=10800 EAT=10800
  @ -1230775808b 10360800c 24786000b 41810400c 56322000b 73432800c 87944400b 104882400c
  119480400b 136332000c 151016400b 167781600c 182552400b 199231200c 214174800b 230680800c
  245710800b 262735200c 277246800b 294184800c 308782800b 325634400c 340405200b 357084000c
  371941200b 388533600c 403477200b 419983200c 435013200b 452037600c 466635600b 483487200c
  498171600b 947930400d 1509483600b
Africa/Lagos
  LMT=815 GMT=0 +0030=1800 WAT=3600
  @ -2035584815b -1940889600a -1767226415c -1588465800d
Africa/Maputo
  LMT=7818 CAT=7200
  @ -1924999818b
Africa/Monrovia
  LMT=-2588 MMT=-2588 MMT=-2670 GMT=0
  @ -2776979812b -1604359012c 63593070d
Africa/Nairobi
  LMT=8836 +0230=9000 EAT=10800 +0245=9900
  @ -1946168836b -1309746600c -1261969200b -1041388200d -865305900c
Africa/Ndjamena
  LMT=3612 WAT=3600 WAST=7200
  @ -1830387612b 308703600c 321314400b
Africa/Sao_Tome
  LMT=1616 LMT=-2205 GMT=0 WAT=3600
  @ -2713912016b -1830384000c 1514768400d 1546304400c
Africa/Tripoli
  LMT=3164 CET=3600 CEST=7200 EET=7200
  @ -1577926364b -574902000c -568087200b -512175600c -504928800b -449888400c -441856800b
  -347158800d 378684000b 386463600c 402271200b 417999600c 433807200b 449622000c 465429600b
  481590000c 496965600b 512953200c 528674400b 544230000c 560037600b 575852400c 591660000b
  607388400c 623196000b 641775600d 844034400b 860108400c 875916000d 1352505600b 1364515200c
  1382659200d
Africa/Tunis
  LMT=2444 PMT=561 CET=3600 CEST=7200
  @ -2797202444b -1855958961c -969242400d -950493600c -941940000d -891136800c -877827600d
  -857257200c -844556400d -842918400c -842223600d -828230400c -812502000d -796269600c
  -781052400d -766634400c 231202800d 243903600c 262825200d 276044400c 581122800d 591145200c
  606870000d 622594800c 641516400d 654649200c 1114902000d 1128038400c 1143334800d 1162083600c
  1174784400d 1193533200c 1206838800d 1224982800c
Africa/Windhoek
  LMT=4104 +0130=5400 SAST=7200 SAST=10800 CAT=7200 WAT=3600
  @ -2458170504b -2109288600c -860976000d -845254800c 637970400e 764200800f 778640400e
  796780800f 810090000e 828835200f 841539600e 860284800f 873594000e 891734400f 905043600e
  923184000f 936493200e 954633600f 967942800e 986083200f 999392400e 1018137600f 1030842000e
  1049587200f 1062896400e 1081036800f 1094346000e 1112486400f 1125795600e 1143936000f
  1157245200e 1175385600f 1188694800e 1207440000f 1220749200e 1238889600f 1252198800e
  1270339200f 1283648400e 1301788800f 1315098000e 1333238400f 1346547600e 1365292800f
  1377997200e 1396742400f 1410051600e 1428192000f 1441501200e 1459641600f 1472950800e
  1491091200f 1504400400e
"

end DynamicContent.Calendar.ZoneTable
