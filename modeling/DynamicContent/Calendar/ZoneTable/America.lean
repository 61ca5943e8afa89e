/-
# Zones of the Americas

The time zone data of the Americas, in the form that `Zone.ofRow?` reads.
-/

namespace DynamicContent.Calendar.ZoneTable

/-- The zones of the Americas. -/
def america : String := "
America/Adak
  LMT=44002 LMT=-42398 NST=-39600 NWT=-36000 NPT=-36000 BST=-39600 BDT=-36000 AHST=-36000
  HST=-36000 HDT=-32400
  @ -3225223727b -2188944802c -880196400d -769395600e -765374400c -86878800f -21466800g
  -5745600f 9982800g 25704000f 41432400g 57758400f 73486800g 89208000f 104936400g 120657600f
  126709200g 152107200f 162392400g 183556800f 199285200g 215611200f 230734800g 247060800f
  262789200g 278510400f 294238800g 309960000f 325688400g 341409600f 357138000g 372859200f
  388587600g 404913600f 420037200g 436363200h 439034400i 452088000j 467809200i 483537600j
  499258800i 514987200j 530708400i 544622400j 562158000i 576072000j 594212400i 607521600j
  625662000i 638971200j 657111600i 671025600j 688561200i 702475200j 720010800i 733924800j
  752065200i 765374400j 783514800i 796824000j 814964400i 828878400j 846414000i 860328000j
  877863600i 891777600j 909313200i 923227200j 941367600i 954676800j 972817200i 986126400j
  1004266800i 1018180800j 1035716400i 1049630400j 1067166000i 1081080000j 1099220400i
  1112529600j 1130670000i 1143979200j 1162119600i
  + 2007 3.2.0:43200j 11.1.0:39600i
America/Anchorage
  LMT=50424 LMT=-35976 AST=-36000 AWT=-32400 APT=-32400 AHST=-36000 AHDT=-32400 YST=-32400
  AKST=-32400 AKDT=-28800
  @ -3225223727b -2188951224c -880200000d -769395600e -765378000c -86882400f -21470400g
  -5749200f 9979200g 25700400f 41428800g 57754800f 73483200g 89204400f 104932800g 120654000f
  126705600g 152103600f 162388800g 183553200f 199281600g 215607600f 230731200g 247057200f
  262785600g 278506800f 294235200g 309956400f 325684800g 341406000f 357134400g 372855600f
  388584000g 404910000f 420033600g 436359600h 439030800i 452084400j 467805600i 483534000j
  499255200i 514983600j 530704800i 544618800j 562154400i 576068400j 594208800i 607518000j
  625658400i 638967600j 657108000i 671022000j 688557600i 702471600j 720007200i 733921200j
  752061600i 765370800j 783511200i 796820400j 814960800i 828874800j 846410400i 860324400j
  877860000i 891774000j 909309600i 923223600j 941364000i 954673200j 972813600i 986122800j
  1004263200i 1018177200j 1035712800i 1049626800j 1067162400i 1081076400j 1099216800i
  1112526000j 1130666400i 1143975600j 1162116000i
  + 2007 3.2.0:39600j 11.1.0:36000i
America/Araguaina
  LMT=-11568 -03=-10800 -02=-7200
  @ -1767214032b -1206957600c -1191362400b -1175374800c -1159826400b -633819600c -622069200b
  -602283600c -591832800b -570747600c -560210400b -539125200c -531352800b -191365200c
  -184197600b -155163600c -150069600b -128898000c -121125600b -99954000c -89589600b -68418000c
  -57967200b 499748400c 511236000b 530593200c 540266400b 562129200c 571197600b 592974000c
  602042400b 624423600c 634701600b 813726000c 824004000b 844570800c 856058400b 876106800c
  888717600b 908074800c 919562400b 938919600c 951616800b 970974000c 982461600b 1003028400c
  1013911200b 1036292400c 1045360800b 1350788400c 1361066400b
America/Argentina/Buenos_Aires
  LMT=-14028 CMT=-15408 -04=-14400 -03=-10800 -02=-7200
  @ -2372097972b -1567453392c -1233432000d -1222981200c -1205956800d -1194037200c -1172865600d
  -1162501200c -1141329600d -1130965200c -1109793600d -1099429200c -1078257600d -1067806800c
  -1046635200d -1036270800c -1015099200d -1004734800c -983563200d -973198800c -952027200d
  -941576400c -931032000d -900882000c -890337600d -833749200c -827265600d -752274000c
  -733780800d -197326800c -190843200d -184194000c -164491200d -152658000c -132955200d
  -121122000c -101419200d -86821200c -71092800d -54766800c -39038400d -23317200c -7588800d
  128142000e 136605600d 596948400e 605066400d 624423600e 636516000d 656478000e 667965600d
  687927600e 699415200d 719377200e 731469600d 1198983600e 1205632800d 1224385200e 1237082400d
America/Argentina/Catamarca
  LMT=-15788 CMT=-15408 -04=-14400 -03=-10800 -02=-7200
  @ -2372096212b -1567453392c -1233432000d -1222981200c -1205956800d -1194037200c -1172865600d
  -1162501200c -1141329600d -1130965200c -1109793600d -1099429200c -1078257600d -1067806800c
  -1046635200d -1036270800c -1015099200d -1004734800c -983563200d -973198800c -952027200d
  -941576400c -931032000d -900882000c -890337600d -833749200c -827265600d -752274000c
  -733780800d -197326800c -190843200d -184194000c -164491200d -152658000c -132955200d
  -121122000c -101419200d -86821200c -71092800d -54766800c -39038400d -23317200c -7588800d
  128142000e 136605600d 596948400e 605066400d 624423600e 636516000d 656478000e 667965600c
  687931200e 699415200d 719377200e 731469600d 1086058800c 1087704000d 1198983600e 1205632800d
America/Argentina/Cordoba
  LMT=-15408 CMT=-15408 -04=-14400 -03=-10800 -02=-7200
  @ -2372096592b -1567453392c -1233432000d -1222981200c -1205956800d -1194037200c -1172865600d
  -1162501200c -1141329600d -1130965200c -1109793600d -1099429200c -1078257600d -1067806800c
  -1046635200d -1036270800c -1015099200d -1004734800c -983563200d -973198800c -952027200d
  -941576400c -931032000d -900882000c -890337600d -833749200c -827265600d -752274000c
  -733780800d -197326800c -190843200d -184194000c -164491200d -152658000c -132955200d
  -121122000c -101419200d -86821200c -71092800d -54766800c -39038400d -23317200c -7588800d
  128142000e 136605600d 596948400e 605066400d 624423600e 636516000d 656478000e 667965600c
  687931200e 699415200d 719377200e 731469600d 1198983600e 1205632800d 1224385200e 1237082400d
America/Argentina/Jujuy
  LMT=-15672 CMT=-15408 -04=-14400 -03=-10800 -02=-7200
  @ -2372096328b -1567453392c -1233432000d -1222981200c -1205956800d -1194037200c -1172865600d
  -1162501200c -1141329600d -1130965200c -1109793600d -1099429200c -1078257600d -1067806800c
  -1046635200d -1036270800c -1015099200d -1004734800c -983563200d -973198800c -952027200d
  -941576400c -931032000d -900882000c -890337600d -833749200c -827265600d -752274000c
  -733780800d -197326800c -190843200d -184194000c -164491200d -152658000c -132955200d
  -121122000c -101419200d -86821200c -71092800d -54766800c -39038400d -23317200c -7588800d
  128142000e 136605600d 596948400e 605066400d 624423600e 636516000c 657086400d 669178800c
  686721600e 699415200d 719377200e 731469600d 1198983600e 1205632800d
America/Argentina/La_Rioja
  LMT=-16044 CMT=-15408 -04=-14400 -03=-10800 -02=-7200
  @ -2372095956b -1567453392c -1233432000d -1222981200c -1205956800d -1194037200c -1172865600d
  -1162501200c -1141329600d -1130965200c -1109793600d -1099429200c -1078257600d -1067806800c
  -1046635200d -1036270800c -1015099200d -1004734800c -983563200d -973198800c -952027200d
  -941576400c -931032000d -900882000c -890337600d -833749200c -827265600d -752274000c
  -733780800d -197326800c -190843200d -184194000c -164491200d -152658000c -132955200d
  -121122000c -101419200d -86821200c -71092800d -54766800c -39038400d -23317200c -7588800d
  128142000e 136605600d 596948400e 605066400d 624423600e 636516000d 656478000e 667792800c
  673588800d 687927600e 699415200d 719377200e 731469600d 1086058800c 1087704000d 1198983600e
  1205632800d
America/Argentina/Mendoza
  LMT=-16516 CMT=-15408 -04=-14400 -03=-10800 -02=-7200
  @ -2372095484b -1567453392c -1233432000d -1222981200c -1205956800d -1194037200c -1172865600d
  -1162501200c -1141329600d -1130965200c -1109793600d -1099429200c -1078257600d -1067806800c
  -1046635200d -1036270800c -1015099200d -1004734800c -983563200d -973198800c -952027200d
  -941576400c -931032000d -900882000c -890337600d -833749200c -827265600d -752274000c
  -733780800d -197326800c -190843200d -184194000c -164491200d -152658000c -132955200d
  -121122000c -101419200d -86821200c -71092800d -54766800c -39038400d -23317200c -7588800d
  128142000e 136605600d 596948400e 605066400d 624423600e 636516000c 655963200d 667796400c
  687499200d 699418800c 719380800e 731469600d 1085281200c 1096171200d 1198983600e 1205632800d
America/Argentina/Rio_Gallegos
  LMT=-16612 CMT=-15408 -04=-14400 -03=-10800 -02=-7200
  @ -2372095388b -1567453392c -1233432000d -1222981200c -1205956800d -1194037200c -1172865600d
  -1162501200c -1141329600d -1130965200c -1109793600d -1099429200c -1078257600d -1067806800c
  -1046635200d -1036270800c -1015099200d -1004734800c -983563200d -973198800c -952027200d
  -941576400c -931032000d -900882000c -890337600d -833749200c -827265600d -752274000c
  -733780800d -197326800c -190843200d -184194000c -164491200d -152658000c -132955200d
  -121122000c -101419200d -86821200c -71092800d -54766800c -39038400d -23317200c -7588800d
  128142000e 136605600d 596948400e 605066400d 624423600e 636516000d 656478000e 667965600d
  687927600e 699415200d 719377200e 731469600d 1086058800c 1087704000d 1198983600e 1205632800d
America/Argentina/Salta
  LMT=-15700 CMT=-15408 -04=-14400 -03=-10800 -02=-7200
  @ -2372096300b -1567453392c -1233432000d -1222981200c -1205956800d -1194037200c -1172865600d
  -1162501200c -1141329600d -1130965200c -1109793600d -1099429200c -1078257600d -1067806800c
  -1046635200d -1036270800c -1015099200d -1004734800c -983563200d -973198800c -952027200d
  -941576400c -931032000d -900882000c -890337600d -833749200c -827265600d -752274000c
  -733780800d -197326800c -190843200d -184194000c -164491200d -152658000c -132955200d
  -121122000c -101419200d -86821200c -71092800d -54766800c -39038400d -23317200c -7588800d
  128142000e 136605600d 596948400e 605066400d 624423600e 636516000d 656478000e 667965600c
  687931200e 699415200d 719377200e 731469600d 1198983600e 1205632800d
America/Argentina/San_Juan
  LMT=-16444 CMT=-15408 -04=-14400 -03=-10800 -02=-7200
  @ -2372095556b -1567453392c -1233432000d -1222981200c -1205956800d -1194037200c -1172865600d
  -1162501200c -1141329600d -1130965200c -1109793600d -1099429200c -1078257600d -1067806800c
  -1046635200d -1036270800c -1015099200d -1004734800c -983563200d -973198800c -952027200d
  -941576400c -931032000d -900882000c -890337600d -833749200c -827265600d -752274000c
  -733780800d -197326800c -190843200d -184194000c -164491200d -152658000c -132955200d
  -121122000c -101419200d -86821200c -71092800d -54766800c -39038400d -23317200c -7588800d
  128142000e 136605600d 596948400e 605066400d 624423600e 636516000d 656478000e 667792800c
  673588800d 687927600e 699415200d 719377200e 731469600d 1085972400c 1090728000d 1198983600e
  1205632800d
America/Argentina/San_Luis
  LMT=-15924 CMT=-15408 -04=-14400 -03=-10800 -02=-7200
  @ -2372096076b -1567453392c -1233432000d -1222981200c -1205956800d -1194037200c -1172865600d
  -1162501200c -1141329600d -1130965200c -1109793600d -1099429200c -1078257600d -1067806800c
  -1046635200d -1036270800c -1015099200d -1004734800c -983563200d -973198800c -952027200d
  -941576400c -931032000d -900882000c -890337600d -833749200c -827265600d -752274000c
  -733780800d -197326800c -190843200d -184194000c -164491200d -152658000c -132955200d
  -121122000c -101419200d -86821200c -71092800d -54766800c -39038400d -23317200c -7588800d
  128142000e 136605600d 596948400e 605066400d 624423600e 637380000c 655963200d 667796400c
  675748800d 1085972400c 1090728000d 1198983600e 1200880800d 1205031600c 1223784000d
  1236481200c 1255233600d
America/Argentina/Tucuman
  LMT=-15652 CMT=-15408 -04=-14400 -03=-10800 -02=-7200
  @ -2372096348b -1567453392c -1233432000d -1222981200c -1205956800d -1194037200c -1172865600d
  -1162501200c -1141329600d -1130965200c -1109793600d -1099429200c -1078257600d -1067806800c
  -1046635200d -1036270800c -1015099200d -1004734800c -983563200d -973198800c -952027200d
  -941576400c -931032000d -900882000c -890337600d -833749200c -827265600d -752274000c
  -733780800d -197326800c -190843200d -184194000c -164491200d -152658000c -132955200d
  -121122000c -101419200d -86821200c -71092800d -54766800c -39038400d -23317200c -7588800d
  128142000e 136605600d 596948400e 605066400d 624423600e 636516000d 656478000e 667965600c
  687931200e 699415200d 719377200e 731469600d 1086058800c 1087099200d 1198983600e 1205632800d
  1224385200e 1237082400d
America/Argentina/Ushuaia
  LMT=-16392 CMT=-15408 -04=-14400 -03=-10800 -02=-7200
  @ -2372095608b -1567453392c -1233432000d -1222981200c -1205956800d -1194037200c -1172865600d
  -1162501200c -1141329600d -1130965200c -1109793600d -1099429200c -1078257600d -1067806800c
  -1046635200d -1036270800c -1015099200d -1004734800c -983563200d -973198800c -952027200d
  -941576400c -931032000d -900882000c -890337600d -833749200c -827265600d -752274000c
  -733780800d -197326800c -190843200d -184194000c -164491200d -152658000c -132955200d
  -121122000c -101419200d -86821200c -71092800d -54766800c -39038400d -23317200c -7588800d
  128142000e 136605600d 596948400e 605066400d 624423600e 636516000d 656478000e 667965600d
  687927600e 699415200d 719377200e 731469600d 1085886000c 1087704000d 1198983600e 1205632800d
America/Asuncion
  LMT=-13840 AMT=-13840 -04=-14400 -03=-10800
  @ -2524507760b -1206389360c 86760000d 134017200c 181368000d 194497200c 212990400d 226033200c
  244526400d 257569200c 276062400d 291783600c 307598400d 323406000c 339220800d 354942000c
  370756800d 386478000c 402292800d 418014000c 433828800d 449636400c 465451200d 481172400c
  496987200d 512708400c 528523200d 544244400c 560059200d 575866800c 591681600d 607402800c
  625032000d 638938800c 654753600d 670474800c 686721600d 699418800c 718257600d 733546800c
  749448000d 762318000c 780984000d 793767600c 812520000d 825649200c 844574400d 856666800c
  876024000d 888721200c 907473600d 920775600c 938923200d 952225200c 970372800d 983674800c
  1002427200d 1018148400c 1030852800d 1049598000c 1062907200d 1081047600c 1097985600d
  1110682800c 1129435200d 1142132400c 1160884800d 1173582000c 1192939200d 1205031600c
  1224388800d 1236481200c 1255838400d 1270954800c 1286078400d 1302404400c 1317528000d
  1333854000c 1349582400d 1364094000c 1381032000d 1395543600c 1412481600d 1426993200c
  1443931200d 1459047600c 1475380800d 1490497200c 1506830400d 1521946800c 1538884800d
  1553396400c 1570334400d 1584846000c 1601784000d 1616900400c 1633233600d 1648350000c
  1664683200d 1679799600c 1696132800d 1711249200c 1728187200d
America/Bahia
  LMT=-9244 -03=-10800 -02=-7200
  @ -1767216356b -1206957600c -1191362400b -1175374800c -1159826400b -633819600c -622069200b
  -602283600c -591832800b -570747600c -560210400b -539125200c -531352800b -191365200c
  -184197600b -155163600c -150069600b -128898000c -121125600b -99954000c -89589600b -68418000c
  -57967200b 499748400c 511236000b 530593200c 540266400b 562129200c 571197600b 592974000c
  602042400b 624423600c 634701600b 656478000c 666756000b 687927600c 697600800b 719982000c
  728445600b 750826800c 761709600b 782276400c 793159200b 813726000c 824004000b 844570800c
  856058400b 876106800c 888717600b 908074800c 919562400b 938919600c 951616800b 970974000c
  982461600b 1003028400c 1013911200b 1036292400c 1045360800b 1318734000c 1330221600b
America/Bahia_Banderas
  LMT=-25260 MST=-25200 CST=-21600 MDT=-21600 CDT=-18000
  @ -1514739600b -1343149200c -1234807200b -1220461200d -1207159200b -1191344400c -873828000b
  828867600d 846403200b 860317200d 877852800b 891766800d 909302400b 923216400d 941356800b
  954666000d 972806400b 989139600d 1001836800b 1018170000d 1035705600b 1049619600d 1067155200b
  1081069200d 1099209600b 1112518800d 1130659200b 1143968400d 1162108800b 1175418000d
  1193558400b 1207472400d 1225008000b 1238922000d 1256457600b 1270371600e 1288508400c
  1301817600e 1319958000c 1333267200e 1351407600c 1365321600e 1382857200c 1396771200e
  1414306800c 1428220800e 1445756400c 1459670400e 1477810800c 1491120000e 1509260400c
  1522569600e 1540710000c 1554624000e 1572159600c 1586073600e 1603609200c 1617523200e
  1635663600c 1648972800e 1667113200c
America/Barbados
  LMT=-14309 AST=-14400 ADT=-10800 -0330=-12600
  @ -1841256091b -874263600c -862682400b -841604400c -830714400b -811882800d -798660000b
  234943200c 244616400b 261554400c 276066000b 293004000c 307515600b 325058400c 338706000b
America/Belem
  LMT=-11636 -03=-10800 -02=-7200
  @ -1767213964b -1206957600c -1191362400b -1175374800c -1159826400b -633819600c -622069200b
  -602283600c -591832800b -570747600c -560210400b -539125200c -531352800b -191365200c
  -184197600b -155163600c -150069600b -128898000c -121125600b -99954000c -89589600b -68418000c
  -57967200b 499748400c 511236000b 530593200c 540266400b 562129200c 571197600b
America/Belize
  LMT=-21168 CST=-21600 -0530=-19800 CWT=-18000 CPT=-18000 CDT=-18000
  @ -1822500432b -1616954400c -1606069800b -1585504800c -1574015400b -1554055200c -1542565800b
  -1522605600c -1511116200b -1490551200c -1479666600b -1459101600c -1448217000b -1427652000c
  -1416162600b -1396202400c -1384713000b -1364752800c -1353263400b -1333303200c -1321813800b
  -1301248800c -1290364200b -1269799200c -1258914600b -1238349600c -1226860200b -1206900000c
  -1195410600b -1175450400c -1163961000b -1143396000c -1132511400b -1111946400c -1101061800b
  -1080496800c -1069612200b -1049047200c -1037557800b -1017597600c -1006108200b -986148000c
  -974658600b -954093600c -943209000b -922644000c -911759400b -891194400c -879705000b
  -868212000d -769395600e -758746800b -701892000c -690402600b -670442400c -658953000b
  -638992800c -627503400b -606938400c -596053800b -575488800c -564604200b -544039200c
  -532549800b -512589600c -501100200b -481140000c -469650600b -449690400c -438201000b
  -417636000c -406751400b -386186400c -375301800b -354736800c -343247400b -323287200c
  -311797800b -291837600c -280348200b -259783200c -248898600b -228333600c -217449000b
  -196884000c -185999400b -165434400c -153945000b -133984800c -122495400b -102535200c
  -91045800b -70480800c -59596200b 123919200f 129618000b 409039200f 413874000b
America/Boa_Vista
  LMT=-14560 -04=-14400 -03=-10800
  @ -1767211040b -1206954000c -1191358800b -1175371200c -1159822800b -633816000c -622065600b
  -602280000c -591829200b -570744000c -560206800b -539121600c -531349200b -191361600c
  -184194000b -155160000c -150066000b -128894400c -121122000b -99950400c -89586000b -68414400c
  -57963600b 499752000c 511239600b 530596800c 540270000b 562132800c 571201200b 938923200c
  951620400b 970977600c 971578800b
America/Bogota
  LMT=-17776 BMT=-17776 -05=-18000 -04=-14400
  @ -2707671824b -1739041424c 704869200d 729057600c
America/Boise
  LMT=-27889 PST=-28800 PDT=-25200 MST=-25200 MWT=-21600 MPT=-21600 MDT=-21600
  @ -2717640000b -1633269600c -1615129200b -1601820000c -1583679600b -1471788000d -880210800e
  -769395600f -765388800d -84380400g -68659200d -52930800g -37209600d -21481200g -5760000d
  9968400g 25689600d 41418000g 57744000d 73472400g 89193600d 104922000g 120643200d 129114000g
  152092800d 162378000g 183542400d 199270800g 215596800d 230720400g 247046400d 262774800g
  278496000d 294224400g 309945600d 325674000g 341395200d 357123600g 372844800d 388573200g
  404899200d 420022800g 436348800d 452077200g 467798400d 483526800g 499248000d 514976400g
  530697600d 544611600g 562147200d 576061200g 594201600d 607510800g 625651200d 638960400g
  657100800d 671014800g 688550400d 702464400g 720000000d 733914000g 752054400d 765363600g
  783504000d 796813200g 814953600d 828867600g 846403200d 860317200g 877852800d 891766800g
  909302400d 923216400g 941356800d 954666000g 972806400d 986115600g 1004256000d 1018170000g
  1035705600d 1049619600g 1067155200d 1081069200g 1099209600d 1112518800g 1130659200d
  1143968400g 1162108800d
  + 2007 3.2.0:32400g 11.1.0:28800d
America/Cambridge_Bay
  -00=0 MST=-25200 MWT=-21600 MPT=-21600 MDT=-21600 CST=-21600 CDT=-18000 EST=-18000
  @ -1577923200b -880210800c -769395600d -765388800b 73472400e 89193600b 104922000e 120643200b
  136371600e 152092800b 167821200e 183542400b 199270800e 215596800b 230720400e 247046400b
  262774800e 278496000b 294224400e 309945600b 325674000e 341395200b 357123600e 372844800b
  388573200e 404899200b 420022800e 436348800b 452077200e 467798400b 483526800e 499248000b
  514976400e 530697600b 544611600e 562147200b 576061200e 594201600b 607510800e 625651200b
  638960400e 657100800b 671014800e 688550400b 702464400e 720000000b 733914000e 752054400b
  765363600e 783504000b 796813200e 814953600b 828867600e 846403200b 860317200e 877852800b
  891766800e 909302400b 923216400e 941356800f 954662400g 972802800h 973400400f 986115600e
  1004256000b 1018170000e 1035705600b 1049619600e 1067155200b 1081069200e 1099209600b
  1112518800e 1130659200b 1143968400e 1162108800b
  + 2007 3.2.0:32400e 11.1.0:28800b
America/Campo_Grande
  LMT=-13108 -04=-14400 -03=-10800
  @ -1767212492b -1206954000c -1191358800b -1175371200c -1159822800b -633816000c -622065600b
  -602280000c -591829200b -570744000c -560206800b -539121600c -531349200b -191361600c
  -184194000b -155160000c -150066000b -128894400c -121122000b -99950400c -89586000b -68414400c
  -57963600b 499752000c 511239600b 530596800c 540270000b 562132800c 571201200b 592977600c
  602046000b 624427200c 634705200b 656481600c 666759600b 687931200c 697604400b 719985600c
  728449200b 750830400c 761713200b 782280000c 793162800b 813729600c 824007600b 844574400c
  856062000b 876110400c 888721200b 908078400c 919566000b 938923200c 951620400b 970977600c
  982465200b 1003032000c 1013914800b 1036296000c 1045364400b 1066536000c 1076814000b
  1099368000c 1108868400b 1129435200c 1140318000b 1162699200c 1172372400b 1192334400c
  1203217200b 1224388800c 1234666800b 1255838400c 1266721200b 1287288000c 1298170800b
  1318737600c 1330225200b 1350792000c 1361070000b 1382241600c 1392519600b 1413691200c
  1424574000b 1445140800c 1456023600b 1476590400c 1487473200b 1508040000c 1518922800b
  1541304000c 1550372400b
America/Cancun
  LMT=-20824 CST=-21600 EST=-18000 CDT=-18000 EDT=-14400
  @ -1514743200b 378201600c 410504400b 828864000d 846399600b 860313600d 877849200c 891759600e
  902037600d 909298800b 923212800d 941353200b 954662400d 972802800b 989136000d 1001833200b
  1018166400d 1035702000b 1049616000d 1067151600b 1081065600d 1099206000b 1112515200d
  1130655600b 1143964800d 1162105200b 1175414400d 1193554800b 1207468800d 1225004400b
  1238918400d 1256454000b 1270368000d 1288508400b 1301817600d 1319958000b 1333267200d
  1351407600b 1365321600d 1382857200b 1396771200d 1414306800b 1422777600c
America/Caracas
  LMT=-16064 CMT=-16060 -0430=-16200 -04=-14400
  @ -2524505536b -1826739140c -157750200d 1197183600c 1462086000d
America/Cayenne
  LMT=-12560 -04=-14400 -03=-10800
  @ -1846269040b -71092800c
America/Chicago
  LMT=-21036 CST=-21600 CDT=-18000 EST=-18000 CWT=-18000 CPT=-18000
  @ -2717647200b -1633276800c -1615136400b -1601827200c -1583686800b -1563724800c -1551632400b
  -1538928000c -1520182800b -1504454400c -1491757200b -1473004800c -1459702800b -1441555200c
  -1428253200b -1410105600c -1396803600b -1378656000c -1365354000b -1347206400c -1333904400b
  -1315152000c -1301850000b -1283702400c -1270400400b -1252252800c -1238950800b -1220803200c
  -1207501200b -1189353600c -1176051600b -1157299200c -1144602000b -1125849600c -1112547600b
  -1094400000c -1081098000b -1067788800d -1045414800b -1031500800c -1018198800b -1000051200c
  -986749200b -967996800c -955299600b -936547200c -923245200b -905097600c -891795600b
  -880214400e -769395600f -765392400b -747244800c -733942800b -715795200c -702493200b
  -684345600c -671043600b -652896000c -639594000b -620841600c -608144400b -589392000c
  -576090000b -557942400c -544640400b -526492800c -513190800b -495043200c -481741200b
  -463593600c -447267600b -431539200c -415818000b -400089600c -384368400b -368640000c
  -352918800b -337190400c -321469200b -305740800c -289414800b -273686400c -257965200b
  -242236800c -226515600b -210787200c -195066000b -179337600c -163616400b -147888000c
  -131562000b -116438400c -100112400b -84384000c -68662800b -52934400c -37213200b -21484800c
  -5763600b 9964800c 25686000b 41414400c 57740400b 73468800c 89190000b 104918400c 120639600b
  126691200c 152089200b 162374400c 183538800b 199267200c 215593200b 230716800c 247042800b
  262771200c 278492400b 294220800c 309942000b 325670400c 341391600b 357120000c 372841200b
  388569600c 404895600b 420019200c 436345200b 452073600c 467794800b 483523200c 499244400b
  514972800c 530694000b 544608000c 562143600b 576057600c 594198000b 607507200c 625647600b
  638956800c 657097200b 671011200c 688546800b 702460800c 719996400b 733910400c 752050800b
  765360000c 783500400b 796809600c 814950000b 828864000c 846399600b 860313600c 877849200b
  891763200c 909298800b 923212800c 941353200b 954662400c 972802800b 986112000c 1004252400b
  1018166400c 1035702000b 1049616000c 1067151600b 1081065600c 1099206000b 1112515200c
  1130655600b 1143964800c 1162105200b
  + 2007 3.2.0:28800c 11.1.0:25200b
America/Chihuahua
  LMT=-25460 MST=-25200 CST=-21600 MDT=-21600 CDT=-18000
  @ -1514739600b -1343149200c -1234807200b -1220461200d -1207159200b -1191344400c 828864000e
  846399600c 860313600e 877849200c 891766800d 909302400b 923216400d 941356800b 954666000d
  972806400b 989139600d 1001836800b 1018170000d 1035705600b 1049619600d 1067155200b
  1081069200d 1099209600b 1112518800d 1130659200b 1143968400d 1162108800b 1175418000d
  1193558400b 1207472400d 1225008000b 1238922000d 1256457600b 1270371600d 1288512000b
  1301821200d 1319961600b 1333270800d 1351411200b 1365325200d 1382860800b 1396774800d
  1414310400b 1428224400d 1445760000b 1459674000d 1477814400b 1491123600d 1509264000b
  1522573200d 1540713600b 1554627600d 1572163200b 1586077200d 1603612800b 1617526800d
  1635667200b 1648976400d 1667116800c
America/Ciudad_Juarez
  LMT=-25556 MST=-25200 CST=-21600 MDT=-21600 CDT=-18000
  @ -1514739600b -1343149200c -1234807200b -1220461200d -1207159200b -1191344400c 828864000e
  846399600c 860313600e 877849200c 891766800d 909302400b 923216400d 941356800b 954666000d
  972806400b 989139600d 1001836800b 1018170000d 1035705600b 1049619600d 1067155200b
  1081069200d 1099209600b 1112518800d 1130659200b 1143968400d 1162108800b 1175418000d
  1193558400b 1207472400d 1225008000b 1238922000d 1256457600b 1268557200d 1289116800b
  1300006800d 1320566400b 1331456400d 1352016000b 1362906000d 1383465600b 1394355600d
  1414915200b 1425805200d 1446364800b 1457859600d 1478419200b 1489309200d 1509868800b
  1520758800d 1541318400b 1552208400d 1572768000b 1583658000d 1604217600b 1615712400d
  1636272000b 1647162000d 1667116800c 1669788000b
  + 2023 3.2.0:32400d 11.1.0:28800b
America/Costa_Rica
  LMT=-20173 SJMT=-20173 CST=-21600 CDT=-18000
  @ -2524501427b -1545071027c 288770400d 297234000c 320220000d 328683600c 664264800d 678344400c
  695714400d 700635600c
America/Coyhaique
  LMT=-17296 SMT=-16965 -05=-18000 -04=-14400 -03=-10800
  @ -2524504304b -1892661435c -1688410800b -1619205435d -1593806400b -1335986235d -1317585600c
  -1304362800d -1286049600c -1272826800d -1254513600c -1241290800d -1222977600c -1209754800d
  -1191355200c -1178132400d -870552000c -865278000d -718056000c -713649600d -36619200e
  -23922000d -3355200e 7527600d 24465600e 37767600d 55915200e 69217200d 87969600e 100666800d
  118209600e 132116400d 150868800e 163566000d 182318400e 195620400d 213768000e 227070000d
  245217600e 258519600d 277272000e 289969200d 308721600e 321418800d 340171200e 353473200d
  371620800e 384922800d 403070400e 416372400d 434520000e 447822000d 466574400e 479271600d
  498024000e 510721200d 529473600e 545194800d 560923200e 574225200d 592372800e 605674800d
  624427200e 637124400d 653457600e 668574000d 687326400e 700628400d 718776000e 732078000d
  750225600e 763527600d 781675200e 794977200d 813729600e 826426800d 845179200e 859690800d
  876628800e 889930800d 906868800e 923194800d 939528000e 952830000d 971582400e 984279600d
  1003032000e 1015729200d 1034481600e 1047178800d 1065931200e 1079233200d 1097380800e
  1110682800d 1128830400e 1142132400d 1160884800e 1173582000d 1192334400e 1206846000d
  1223784000e 1237086000d 1255233600e 1270350000d 1286683200e 1304823600d 1313899200e
  1335668400d 1346558400e 1367118000d 1378612800e 1398567600d 1410062400e 1463281200d
  1471147200e 1494730800d 1502596800e 1526180400d 1534046400e 1554606000d 1567915200e
  1586055600d 1599364800e 1617505200d 1630814400e 1648954800d 1662868800e 1680404400d
  1693713600e 1712458800d 1725768000e
America/Cuiaba
  LMT=-13460 -04=-14400 -03=-10800
  @ -1767212140b -1206954000c -1191358800b -1175371200c -1159822800b -633816000c -622065600b
  -602280000c -591829200b -570744000c -560206800b -539121600c -531349200b -191361600c
  -184194000b -155160000c -150066000b -128894400c -121122000b -99950400c -89586000b -68414400c
  -57963600b 499752000c 511239600b 530596800c 540270000b 562132800c 571201200b 592977600c
  602046000b 624427200c 634705200b 656481600c 666759600b 687931200c 697604400b 719985600c
  728449200b 750830400c 761713200b 782280000c 793162800b 813729600c 824007600b 844574400c
  856062000b 876110400c 888721200b 908078400c 919566000b 938923200c 951620400b 970977600c
  982465200b 1003032000c 1013914800b 1036296000c 1045364400b 1099368000c 1108868400b
  1129435200c 1140318000b 1162699200c 1172372400b 1192334400c 1203217200b 1224388800c
  1234666800b 1255838400c 1266721200b 1287288000c 1298170800b 1318737600c 1330225200b
  1350792000c 1361070000b 1382241600c 1392519600b 1413691200c 1424574000b 1445140800c
  1456023600b 1476590400c 1487473200b 1508040000c 1518922800b 1541304000c 1550372400b
America/Danmarkshavn
  LMT=-4480 -03=-10800 -02=-7200 GMT=0
  @ -1686091520b 323845200c 338950800b 354675600c 370400400b 386125200c 401850000b 417574800c
  433299600b 449024400c 465354000b 481078800c 496803600b 512528400c 528253200b 543978000c
  559702800b 575427600c 591152400b 606877200c 622602000b 638326800c 654656400b 670381200c
  686106000b 701830800c 717555600b 733280400c 749005200b 764730000c 780454800b 796179600c
  811904400b 820465200d
America/Dawson
  LMT=-33460 YST=-32400 YDT=-28800 YWT=-28800 YPT=-28800 YDDT=-25200 PST=-28800 PDT=-25200
  MST=-25200
  @ -2188996940b -1632056400c -1615125600b -1596978000c -1583164800b -880203600d -769395600e
  -765381600b -147884400f -131554800b 120646800g 325677600h 341398800g 357127200h 372848400g
  388576800h 404902800g 420026400h 436352400g 452080800h 467802000g 483530400h 499251600g
  514980000h 530701200g 544615200h 562150800g 576064800h 594205200g 607514400h 625654800g
  638964000h 657104400g 671018400h 688554000g 702468000h 720003600g 733917600h 752058000g
  765367200h 783507600g 796816800h 814957200g 828871200h 846406800g 860320800h 877856400g
  891770400h 909306000g 923220000h 941360400g 954669600h 972810000g 986119200h 1004259600g
  1018173600h 1035709200g 1049623200h 1067158800g 1081072800h 1099213200g 1112522400h
  1130662800g 1143972000h 1162112400g 1173607200h 1194166800g 1205056800h 1225616400g
  1236506400h 1257066000g 1268560800h 1289120400g 1300010400h 1320570000g 1331460000h
  1352019600g 1362909600h 1383469200g 1394359200h 1414918800g 1425808800h 1446368400g
  1457863200h 1478422800g 1489312800h 1509872400g 1520762400h 1541322000g 1552212000h
  1572771600g 1583661600h 1604214000i
America/Dawson_Creek
  LMT=-28856 PST=-28800 PDT=-25200 PWT=-25200 PPT=-25200 MST=-25200
  @ -2713881544b -1632060000c -1615129200b -880207200d -769395600e -765385200b -715788000c
  -702486000b -684338400c -671036400b -652888800c -639586800b -620834400c -608137200b
  -589384800c -576082800b -557935200c -544633200b -526485600c -513183600b -495036000c
  -481734000b -463586400c -450284400b -431532000c -418230000b -400082400c -386780400b
  -368632800c -355330800b -337183200c -323881200b -305733600c -292431600b -273679200c
  -260982000b -242229600c -226508400b -210780000c -195058800b -179330400c -163609200b
  -147880800c -131554800b -116431200c -100105200b -84376800c -68655600b -52927200c -37206000b
  -21477600c -5756400b 9972000c 25693200b 41421600c 57747600b 73476000c 84013200f
America/Denver
  LMT=-25196 MST=-25200 MDT=-21600 MWT=-21600 MPT=-21600
  @ -2717643600b -1633273200c -1615132800b -1601823600c -1583683200b -1570374000c -1551628800b
  -1538924400c -1534089600b -880210800d -769395600e -765388800b -147884400c -131558400b
  -116434800c -100108800b -84380400c -68659200b -52930800c -37209600b -21481200c -5760000b
  9968400c 25689600b 41418000c 57744000b 73472400c 89193600b 104922000c 120643200b 126694800c
  152092800b 162378000c 183542400b 199270800c 215596800b 230720400c 247046400b 262774800c
  278496000b 294224400c 309945600b 325674000c 341395200b 357123600c 372844800b 388573200c
  404899200b 420022800c 436348800b 452077200c 467798400b 483526800c 499248000b 514976400c
  530697600b 544611600c 562147200b 576061200c 594201600b 607510800c 625651200b 638960400c
  657100800b 671014800c 688550400b 702464400c 720000000b 733914000c 752054400b 765363600c
  783504000b 796813200c 814953600b 828867600c 846403200b 860317200c 877852800b 891766800c
  909302400b 923216400c 941356800b 954666000c 972806400b 986115600c 1004256000b 1018170000c
  1035705600b 1049619600c 1067155200b 1081069200c 1099209600b 1112518800c 1130659200b
  1143968400c 1162108800b
  + 2007 3.2.0:32400c 11.1.0:28800b
America/Detroit
  LMT=-19931 CST=-21600 EST=-18000 EWT=-14400 EPT=-14400 EDT=-14400
  @ -2051202469b -1724083200c -880218000d -769395600e -765396000c -684349200f -671047200c
  -80506740f -68666400c -52938000f -37216800c 104914800f 120636000c 126687600f 152085600c
  167814000f 183535200c 199263600f 215589600c 230713200f 247039200c 262767600f 278488800c
  294217200f 309938400c 325666800f 341388000c 357116400f 372837600c 388566000f 404892000c
  420015600f 436341600c 452070000f 467791200c 483519600f 499240800c 514969200f 530690400c
  544604400f 562140000c 576054000f 594194400c 607503600f 625644000c 638953200f 657093600c
  671007600f 688543200c 702457200f 719992800c 733906800f 752047200c 765356400f 783496800c
  796806000f 814946400c 828860400f 846396000c 860310000f 877845600c 891759600f 909295200c
  923209200f 941349600c 954658800f 972799200c 986108400f 1004248800c 1018162800f 1035698400c
  1049612400f 1067148000c 1081062000f 1099202400c 1112511600f 1130652000c 1143961200f
  1162101600c
  + 2007 3.2.0:25200f 11.1.0:21600c
America/Edmonton
  LMT=-27232 MST=-25200 MDT=-21600 MWT=-21600 MPT=-21600
  @ -1998663968b -1632063600c -1615132800b -1600614000c -1596816000b -1567954800c -1551628800b
  -1536505200c -1523203200b -1504450800c -1491753600b -1473001200c -1459699200b -880210800d
  -769395600e -765388800b -715791600c -702489600b 73472400c 89193600b 104922000c 120643200b
  136371600c 152092800b 167821200c 183542400b 199270800c 215596800b 230720400c 247046400b
  262774800c 278496000b 294224400c 309945600b 325674000c 341395200b 357123600c 372844800b
  388573200c 404899200b 420022800c 436348800b 452077200c 467798400b 483526800c 499248000b
  514976400c 530697600b 544611600c 562147200b 576061200c 594201600b 607510800c 625651200b
  638960400c 657100800b 671014800c 688550400b 702464400c 720000000b 733914000c 752054400b
  765363600c 783504000b 796813200c 814953600b 828867600c 846403200b 860317200c 877852800b
  891766800c 909302400b 923216400c 941356800b 954666000c 972806400b 986115600c 1004256000b
  1018170000c 1035705600b 1049619600c 1067155200b 1081069200c 1099209600b 1112518800c
  1130659200b 1143968400c 1162108800b
  + 2007 3.2.0:32400c 11.1.0:28800b
America/Eirunepe
  LMT=-16768 -05=-18000 -04=-14400
  @ -1767208832b -1206950400c -1191355200b -1175367600c -1159819200b -633812400c -622062000b
  -602276400c -591825600b -570740400c -560203200b -539118000c -531345600b -191358000c
  -184190400b -155156400c -150062400b -128890800c -121118400b -99946800c -89582400b -68410800c
  -57960000b 499755600c 511243200b 530600400c 540273600b 562136400c 571204800b 750834000c
  761716800b 1214283600c 1384056000b
America/El_Salvador
  LMT=-21408 CST=-21600 CDT=-18000
  @ -1546279392b 547020000c 559717200b 578469600c 591166800b
America/Fort_Nelson
  LMT=-29447 PST=-28800 PDT=-25200 PWT=-25200 PPT=-25200 MST=-25200
  @ -2713880953b -1632060000c -1615129200b -880207200d -769395600e -765385200b -715788000c
  -702486000b -684338400c -671036400b -652888800c -639586800b -620834400c -608137200b
  -589384800c -576082800b -557935200c -544633200b -526485600c -513183600b -495036000c
  -481734000b -463586400c -450284400b -431532000c -418230000b -400082400c -386780400b
  -368632800c -355330800b -337183200c -323881200b -305733600c -292431600b -273679200c
  -260982000b -242229600c -226508400b -210780000c -195058800b -179330400c -163609200b
  -147880800c -131554800b -116431200c -100105200b -84376800c -68655600b -52927200c -37206000b
  -21477600c -5756400b 9972000c 25693200b 41421600c 57747600b 73476000c 89197200b 104925600c
  120646800b 136375200c 152096400b 167824800c 183546000b 199274400c 215600400b 230724000c
  247050000b 262778400c 278499600b 294228000c 309949200b 325677600c 341398800b 357127200c
  372848400b 388576800c 404902800b 420026400c 436352400b 452080800c 467802000b 483530400c
  499251600b 514980000c 530701200b 544615200c 562150800b 576064800c 594205200b 607514400c
  625654800b 638964000c 657104400b 671018400c 688554000b 702468000c 720003600b 733917600c
  752058000b 765367200c 783507600b 796816800c 814957200b 828871200c 846406800b 860320800c
  877856400b 891770400c 909306000b 923220000c 941360400b 954669600c 972810000b 986119200c
  1004259600b 1018173600c 1035709200b 1049623200c 1067158800b 1081072800c 1099213200b
  1112522400c 1130662800b 1143972000c 1162112400b 1173607200c 1194166800b 1205056800c
  1225616400b 1236506400c 1257066000b 1268560800c 1289120400b 1300010400c 1320570000b
  1331460000c 1352019600b 1362909600c 1383469200b 1394359200c 1414918800b 1425808800f
America/Fortaleza
  LMT=-9240 -03=-10800 -02=-7200
  @ -1767216360b -1206957600c -1191362400b -1175374800c -1159826400b -633819600c -622069200b
  -602283600c -591832800b -570747600c -560210400b -539125200c -531352800b -191365200c
  -184197600b -155163600c -150069600b -128898000c -121125600b -99954000c -89589600b -68418000c
  -57967200b 499748400c 511236000b 530593200c 540266400b 562129200c 571197600b 592974000c
  602042400b 624423600c 634701600b 938919600c 951616800b 970974000c 972180000b 1003028400c
  1013911200b
America/Glace_Bay
  LMT=-14388 AST=-14400 ADT=-10800 AWT=-10800 APT=-10800
  @ -2131646412b -1632074400c -1615143600b -880221600d -769395600e -765399600b -526500000c
  -513198000b 73461600c 89182800b 104911200c 120632400b 136360800c 152082000b 167810400c
  183531600b 199260000c 215586000b 230709600c 247035600b 262764000c 278485200b 294213600c
  309934800b 325663200c 341384400b 357112800c 372834000b 388562400c 404888400b 420012000c
  436338000b 452066400c 467787600b 483516000c 499237200b 514965600c 530686800b 544600800c
  562136400b 576050400c 594190800b 607500000c 625640400b 638949600c 657090000b 671004000c
  688539600b 702453600c 719989200b 733903200c 752043600b 765352800c 783493200b 796802400c
  814942800b 828856800c 846392400b 860306400c 877842000b 891756000c 909291600b 923205600c
  941346000b 954655200c 972795600b 986104800c 1004245200b 1018159200c 1035694800b 1049608800c
  1067144400b 1081058400c 1099198800b 1112508000c 1130648400b 1143957600c 1162098000b
  + 2007 3.2.0:21600c 11.1.0:18000b
America/Goose_Bay
  LMT=-14500 NST=-12652 NDT=-9052 NST=-12600 NDT=-9000 NWT=-9000 NPT=-9000 AST=-14400 ADT=-10800
  ADDT=-7200
  @ -2713895900b -1632076148c -1615145348b -1096921748d -1061670600e -1048973400d -1030221000e
  -1017523800d -998771400e -986074200d -966717000e -954624600d -935267400e -922570200d
  -903817800e -891120600d -872368200f -769395600g -765401400d -746044200e -733347000d
  -714594600e -701897400d -683145000e -670447800d -651695400e -638998200d -619641000e
  -606943800d -589401000e -576099000d -557951400e -544649400d -526501800e -513199800d
  -495052200e -481750200d -463602600e -450300600d -431548200e -418246200d -400098600e
  -386796600d -368649000e -355347000d -337199400e -323897400d -305749800e -289423800d
  -273695400e -257974200d -242245800e -226524600d -210796200e -195075000d -179346600e
  -163625400d -147897000e -131571000d -119903400h -116445600i -100119600h -84391200i
  -68670000h -52941600i -37220400h -21492000i -5770800h 9957600i 25678800h 41407200i 57733200h
  73461600i 89182800h 104911200i 120632400h 136360800i 152082000h 167810400i 183531600h
  199260000i 215586000h 230709600i 247035600h 262764000i 278485200h 294213600i 309934800h
  325663200i 341384400h 357112800i 372834000h 388562400i 404888400h 420012000i 436338000h
  452066400i 467787600h 483516000i 499237200h 514965600i 530686800h 544593660i 562129260h
  576043260j 594180060h 607492860i 625633260h 638942460i 657082860h 670996860i 688532460h
  702446460i 719982060h 733896060i 752036460h 765345660i 783486060h 796795260i 814935660h
  828849660i 846385260h 860299260i 877834860h 891748860i 909284460h 923198460i 941338860h
  954648060i 972788460h 986097660i 1004238060h 1018152060i 1035687660h 1049601660i 1067137260h
  1081051260i 1099191660h 1112500860i 1130641260h 1143950460i 1162090860h 1173585660i
  1194145260h 1205035260i 1225594860h 1236484860i 1257044460h 1268539260i 1289098860h
  1299988860i 1320555600h
  + 2012 3.2.0:21600i 11.1.0:18000h
America/Grand_Turk
  LMT=-17072 KMT=-18430 EST=-18000 EDT=-14400 AST=-14400
  @ -2524504528b -1827687170c 294217200d 309938400c 325666800d 341388000c 357116400d 372837600c
  388566000d 404892000c 420015600d 436341600c 452070000d 467791200c 483519600d 499240800c
  514969200d 530690400c 544604400d 562140000c 576054000d 594194400c 607503600d 625644000c
  638953200d 657093600c 671007600d 688543200c 702457200d 719992800c 733906800d 752047200c
  765356400d 783496800c 796806000d 814946400c 828860400d 846396000c 860310000d 877845600c
  891759600d 909295200c 923209200d 941349600c 954658800d 972799200c 986108400d 1004248800c
  1018162800d 1035698400c 1049612400d 1067148000c 1081062000d 1099202400c 1112511600d
  1130652000c 1143961200d 1162101600c 1173596400d 1194156000c 1205046000d 1225605600c
  1236495600d 1257055200c 1268550000d 1289109600c 1299999600d 1320559200c 1331449200d
  1352008800c 1362898800d 1383458400c 1394348400d 1414908000c 1425798000e
  + 2018 3.2.0:25200d 11.1.0:21600c
America/Guatemala
  LMT=-21724 CST=-21600 CDT=-18000
  @ -1617040676b 123055200c 130914000b 422344800c 433054800b 669708000c 684219600b 1146376800c
  1159678800b
America/Guayaquil
  LMT=-19160 QMT=-18840 -05=-18000 -04=-14400
  @ -2524502440b -1230749160c 722926800d 728884800c
America/Guyana
  LMT=-13959 -04=-14400 -0345=-13500 -03=-10800
  @ -1843589241b -1730577600c 176096700d 701841600b
America/Halifax
  LMT=-15264 AST=-14400 ADT=-10800 AWT=-10800 APT=-10800
  @ -2131645536b -1696276800c -1680469200b -1632074400c -1615143600b -1566763200c -1557090000b
  -1535486400c -1524949200b -1504468800c -1493413200b -1472414400c -1461963600b -1440964800c
  -1429390800b -1409515200c -1396731600b -1376856000c -1366491600b -1346616000c -1333832400b
  -1313956800c -1303678800b -1282507200c -1272661200b -1251057600c -1240088400b -1219608000c
  -1207429200b -1188763200c -1175979600b -1157313600c -1143925200b -1124049600c -1113771600b
  -1091390400c -1081026000b -1059854400c -1050786000b -1030910400c -1018126800b -999460800c
  -986677200b -965592000c -955227600b -935956800c -923173200b -904507200c -891723600b
  -880221600d -769395600e -765399600b -747252000c -733950000b -715802400c -702500400b
  -684352800c -671050800b -652903200c -639601200b -589399200c -576097200b -557949600c
  -544647600b -526500000c -513198000b -495050400c -481748400b -431546400c -418244400b
  -400096800c -386794800b -368647200c -355345200b -337197600c -323895600b -242244000c
  -226522800b -210794400c -195073200b -179344800c -163623600b -147895200c -131569200b
  -116445600c -100119600b -84391200c -68670000b -52941600c -37220400b -21492000c -5770800b
  9957600c 25678800b 41407200c 57733200b 73461600c 89182800b 104911200c 120632400b 136360800c
  152082000b 167810400c 183531600b 199260000c 215586000b 230709600c 247035600b 262764000c
  278485200b 294213600c 309934800b 325663200c 341384400b 357112800c 372834000b 388562400c
  404888400b 420012000c 436338000b 452066400c 467787600b 483516000c 499237200b 514965600c
  530686800b 544600800c 562136400b 576050400c 594190800b 607500000c 625640400b 638949600c
  657090000b 671004000c 688539600b 702453600c 719989200b 733903200c 752043600b 765352800c
  783493200b 796802400c 814942800b 828856800c 846392400b 860306400c 877842000b 891756000c
  909291600b 923205600c 941346000b 954655200c 972795600b 986104800c 1004245200b 1018159200c
  1035694800b 1049608800c 1067144400b 1081058400c 1099198800b 1112508000c 1130648400b
  1143957600c 1162098000b
  + 2007 3.2.0:21600c 11.1.0:18000b
America/Havana
  LMT=-19768 HMT=-19776 CST=-18000 CDT=-14400
  @ -2524501832b -1402813824c -1311534000d -1300996800c -933534000d -925675200c -902084400d
  -893620800c -870030000d -862171200c -775681200d -767822400c -744231600d -736372800c
  -144702000d -134251200c -113425200d -102542400c -86295600d -72907200c -54154800d -41457600c
  -21495600d -5774400c 9954000d 25675200c 41403600d 57729600c 73458000d 87364800c 104907600d
  118900800c 136357200d 150436800c 167806800d 183528000c 199256400d 215582400c 230706000d
  247032000c 263365200d 276667200c 290581200d 308721600c 322030800d 340171200c 358318800d
  371620800c 389768400d 403070400c 421218000d 434520000c 452667600d 466574400c 484117200d
  498024000c 511333200d 529473600c 542782800d 560923200c 574837200d 592372800c 606286800d
  623822400c 638946000d 655876800c 671000400d 687330000c 702450000d 718779600c 733899600d
  750229200c 765349200d 781678800c 796798800d 813128400c 828853200d 844578000c 860302800d
  876632400c 891147600d 909291600c 922597200d 941346000c 954651600d 972795600c 986101200d
  1004245200c 1018155600d 1035694800c 1049605200d 1067144400c 1080450000d 1162098000c
  1173589200d 1193547600c 1205643600d 1224997200c 1236488400d 1256446800c 1268542800d
  1288501200c 1300597200d 1321160400c 1333256400d 1352005200c
  + 2013 3.2.0:18000d 11.1.0:18000c
America/Hermosillo
  LMT=-26632 MST=-25200 CST=-21600 MDT=-21600
  @ -1514739600b -1343149200c -1234807200b -1220461200d -1207159200b -1191344400c -873828000b
  828867600d 846403200b 860317200d 877852800b 891766800d 909302400b
America/Indiana/Indianapolis
  LMT=-20678 CST=-21600 CDT=-18000 CWT=-18000 CPT=-18000 EST=-18000 EDT=-14400
  @ -2717647200b -1633276800c -1615136400b -1601827200c -1583686800b -900259200c -891795600b
  -880214400d -769395600e -765392400b -747244800c -733942800b -715795200c -702493200b
  -684345600c -671043600b -652896000c -639594000b -620841600c -608144400b -589392000c
  -576090000b -557942400c -544640400b -526492800c -513190800b -495043200c -481741200b
  -463593600f -386787600b -368640000f -21488400g -5767200f 9961200g 25682400f 1143961200g
  1162101600f
  + 2007 3.2.0:25200g 11.1.0:21600f
America/Indiana/Knox
  LMT=-20790 CST=-21600 CDT=-18000 CWT=-18000 CPT=-18000 EST=-18000
  @ -2717647200b -1633276800c -1615136400b -1601827200c -1583686800b -880214400d -769395600e
  -765392400b -715795200c -702493200b -684345600c -671043600b -652896000c -639594000b
  -620841600c -608144400b -589392000c -576090000b -557942400c -544640400b -526492800c
  -513190800b -495043200c -481741200b -463593600c -447267600b -431539200c -415818000b
  -400089600c -386787600b -368640000c -355338000b -337190400c -321469200b -305740800c
  -289414800b -273686400c -257965200b -242236800f -195066000b -84384000c -68662800b -52934400c
  -37213200b -21484800c -5763600b 9964800c 25686000b 41414400c 57740400b 73468800c 89190000b
  104918400c 120639600b 126691200c 152089200b 162374400c 183538800b 199267200c 215593200b
  230716800c 247042800b 262771200c 278492400b 294220800c 309942000b 325670400c 341391600b
  357120000c 372841200b 388569600c 404895600b 420019200c 436345200b 452073600c 467794800b
  483523200c 499244400b 514972800c 530694000b 544608000c 562143600b 576057600c 594198000b
  607507200c 625647600b 638956800c 657097200b 671011200c 688546800f 1143961200c 1162105200b
  + 2007 3.2.0:28800c 11.1.0:25200b
America/Indiana/Marengo
  LMT=-20723 CST=-21600 CDT=-18000 CWT=-18000 CPT=-18000 EST=-18000 EDT=-14400
  @ -2717647200b -1633276800c -1615136400b -1601827200c -1583686800b -880214400d -769395600e
  -765392400b -589392000c -576090000b -495043200c -481741200b -463593600c -450291600b
  -431539200c -418237200b -400089600c -386787600b -368640000c -355338000b -337190400c
  -323888400b -305740800c -292438800b -273686400f -21488400g -5767200f 9961200g 25682400f
  41410800g 57736800f 73465200g 89186400f 104914800g 120636000f 126687600c 152089200f
  162370800g 183535200f 1143961200g 1162101600f
  + 2007 3.2.0:25200g 11.1.0:21600f
America/Indiana/Petersburg
  LMT=-20947 CST=-21600 CDT=-18000 CWT=-18000 CPT=-18000 EST=-18000 EDT=-14400
  @ -2717647200b -1633276800c -1615136400b -1601827200c -1583686800b -880214400d -769395600e
  -765392400b -462996000c -450291600b -431539200c -418237200b -400089600c -386787600b
  -368640000c -355338000b -337190400c -323888400b -305740800c -292438800b -273686400c
  -257965200b -242236800c -226515600b -210787200c -195066000b -179337600c -163616400b
  -147888000f -100112400b -84384000c -68662800b -52934400c -37213200b -21484800c -5763600b
  9964800c 25686000b 41414400c 57740400b 73468800c 89190000b 104918400c 120639600b 126691200c
  152089200b 162374400c 183538800b 199267200c 215593200b 230716800c 247042800f 1143961200c
  1162105200b 1173600000c 1194159600f
  + 2008 3.2.0:25200g 11.1.0:21600f
America/Indiana/Tell_City
  LMT=-20823 CST=-21600 CDT=-18000 CWT=-18000 CPT=-18000 EST=-18000 EDT=-14400
  @ -2717647200b -1633276800c -1615136400b -1601827200c -1583686800b -880214400d -769395600e
  -765392400b -462996000c -450291600b -431539200c -418237200b -400089600c -386787600b
  -368640000c -355338000b -337190400c -323888400b -305740800c -292438800b -273686400c
  -257965200b -242236800c -226515600b -210787200c -195066000b -179337600f -68662800b
  -52934400c -37213200b -21484800g -5767200f 9961200g 25682400f 1143961200c 1162105200b
  + 2007 3.2.0:28800c 11.1.0:25200b
America/Indiana/Vevay
  LMT=-20416 CST=-21600 CDT=-18000 CWT=-18000 CPT=-18000 EST=-18000 EDT=-14400
  @ -2717647200b -1633276800c -1615136400b -1601827200c -1583686800b -880214400d -769395600e
  -765392400b -495043200f -21488400g -5767200f 9961200g 25682400f 41410800g 57736800f
  73465200g 89186400f 1143961200g 1162101600f
  + 2007 3.2.0:25200g 11.1.0:21600f
America/Indiana/Vincennes
  LMT=-21007 CST=-21600 CDT=-18000 CWT=-18000 CPT=-18000 EST=-18000 EDT=-14400
  @ -2717647200b -1633276800c -1615136400b -1601827200c -1583686800b -880214400d -769395600e
  -765392400b -747244800c -733942800b -526492800c -513190800b -495043200c -481741200b
  -462996000c -450291600b -431539200c -418237200b -400089600c -386787600b -368640000c
  -355338000b -337190400c -323888400b -305740800c -289414800b -273686400c -260989200b
  -242236800c -226515600b -210787200c -195066000b -179337600f -21488400g -5767200f 9961200g
  25682400f 1143961200c 1162105200b 1173600000c 1194159600f
  + 2008 3.2.0:25200g 11.1.0:21600f
America/Indiana/Winamac
  LMT=-20785 CST=-21600 CDT=-18000 CWT=-18000 CPT=-18000 EST=-18000 EDT=-14400
  @ -2717647200b -1633276800c -1615136400b -1601827200c -1583686800b -880214400d -769395600e
  -765392400b -747244800c -733942800b -715795200c -702493200b -684345600c -671043600b
  -652896000c -639594000b -620841600c -608144400b -589392000c -576090000b -557942400c
  -544640400b -526492800c -513190800b -495043200c -481741200b -463593600c -447267600b
  -431539200c -415818000b -400089600c -386787600b -368640000c -355338000b -337190400c
  -323888400b -305740800c -292438800b -273686400f -21488400g -5767200f 9961200g 25682400f
  1143961200c 1162105200b 1173600000g 1194156000f
  + 2008 3.2.0:25200g 11.1.0:21600f
America/Inuvik
  -00=0 PST=-28800 PDT=-25200 MDT=-21600 MST=-25200
  @ -536457600b 73476000c 89197200b 104925600c 120646800b 136375200c 152096400b 167824800c
  183546000b 199274400c 215600400b 230724000c 247050000b 262778400c 278499600b 294228000d
  309945600e 325674000d 341395200e 357123600d 372844800e 388573200d 404899200e 420022800d
  436348800e 452077200d 467798400e 483526800d 499248000e 514976400d 530697600e 544611600d
  562147200e 576061200d 594201600e 607510800d 625651200e 638960400d 657100800e 671014800d
  688550400e 702464400d 720000000e 733914000d 752054400e 765363600d 783504000e 796813200d
  814953600e 828867600d 846403200e 860317200d 877852800e 891766800d 909302400e 923216400d
  941356800e 954666000d 972806400e 986115600d 1004256000e 1018170000d 1035705600e 1049619600d
  1067155200e 1081069200d 1099209600e 1112518800d 1130659200e 1143968400d 1162108800e
  + 2007 3.2.0:32400d 11.1.0:28800e
America/Iqaluit
  -00=0 EWT=-14400 EPT=-14400 EST=-18000 EDT=-14400 CST=-21600 CDT=-18000
  @ -865296000b -769395600c -765396000d 73465200e 89186400d 104914800e 120636000d 136364400e
  152085600d 167814000e 183535200d 199263600e 215589600d 230713200e 247039200d 262767600e
  278488800d 294217200e 309938400d 325666800e 341388000d 357116400e 372837600d 388566000e
  404892000d 420015600e 436341600d 452070000e 467791200d 483519600e 499240800d 514969200e
  530690400d 544604400e 562140000d 576054000e 594194400d 607503600e 625644000d 638953200e
  657093600d 671007600e 688543200d 702457200e 719992800d 733906800e 752047200d 765356400e
  783496800d 796806000e 814946400d 828860400e 846396000d 860310000e 877845600d 891759600e
  909295200d 923209200e 941349600f 954662400g 972802800d 986108400e 1004248800d 1018162800e
  1035698400d 1049612400e 1067148000d 1081062000e 1099202400d 1112511600e 1130652000d
  1143961200e 1162101600d
  + 2007 3.2.0:25200e 11.1.0:21600d
America/Jamaica
  LMT=-18430 KMT=-18430 EST=-18000 EDT=-14400
  @ -2524503170b -1827687170c 126687600d 152085600c 162370800d 183535200c 199263600d 215589600c
  230713200d 247039200c 262767600d 278488800c 294217200d 309938400c 325666800d 341388000c
  357116400d 372837600c 388566000d 404892000c 420015600d 436341600c
America/Juneau
  LMT=54139 LMT=-32261 PST=-28800 PWT=-25200 PPT=-25200 PDT=-25200 YDT=-28800 YST=-32400
  AKST=-32400 AKDT=-28800
  @ -3225223727b -2188954939c -880207200d -769395600e -765385200c -21477600f -5756400c 9972000f
  25693200c 41421600f 57747600c 73476000f 89197200c 104925600f 120646800c 126698400f
  152096400c 162381600f 183546000c 199274400f 215600400c 230724000f 247050000c 262778400f
  278499600c 294228000f 309949200c 325677600g 341402400c 357127200f 372848400c 388576800f
  404902800c 420026400f 436352400h 439030800i 452084400j 467805600i 483534000j 499255200i
  514983600j 530704800i 544618800j 562154400i 576068400j 594208800i 607518000j 625658400i
  638967600j 657108000i 671022000j 688557600i 702471600j 720007200i 733921200j 752061600i
  765370800j 783511200i 796820400j 814960800i 828874800j 846410400i 860324400j 877860000i
  891774000j 909309600i 923223600j 941364000i 954673200j 972813600i 986122800j 1004263200i
  1018177200j 1035712800i 1049626800j 1067162400i 1081076400j 1099216800i 1112526000j
  1130666400i 1143975600j 1162116000i
  + 2007 3.2.0:39600j 11.1.0:36000i
America/Kentucky/Louisville
  LMT=-20582 CST=-21600 CDT=-18000 CWT=-18000 CPT=-18000 EST=-18000 EDT=-14400
  @ -2717647200b -1633276800c -1615136400b -1601827200c -1583686800b -1535904000c -1525280400b
  -905097600c -891795600b -880214400d -769395600e -765392400b -747251940c -744224400b
  -620841600c -608144400b -589392000c -576090000b -557942400c -544640400b -526492800c
  -513190800b -495043200c -481741200b -463593600c -450291600b -431539200c -415818000b
  -400089600c -384368400b -368640000c -352918800b -337190400c -321469200b -305740800c
  -289414800b -273686400c -266432400f -52938000g -37216800f -21488400g -5767200f 9961200g
  25682400f 41410800g 57736800f 73465200g 89186400f 104914800g 120636000f 126687600c
  152089200f 162370800g 183535200f 199263600g 215589600f 230713200g 247039200f 262767600g
  278488800f 294217200g 309938400f 325666800g 341388000f 357116400g 372837600f 388566000g
  404892000f 420015600g 436341600f 452070000g 467791200f 483519600g 499240800f 514969200g
  530690400f 544604400g 562140000f 576054000g 594194400f 607503600g 625644000f 638953200g
  657093600f 671007600g 688543200f 702457200g 719992800f 733906800g 752047200f 765356400g
  783496800f 796806000g 814946400f 828860400g 846396000f 860310000g 877845600f 891759600g
  909295200f 923209200g 941349600f 954658800g 972799200f 986108400g 1004248800f 1018162800g
  1035698400f 1049612400g 1067148000f 1081062000g 1099202400f 1112511600g 1130652000f
  1143961200g 1162101600f
  + 2007 3.2.0:25200g 11.1.0:21600f
America/Kentucky/Monticello
  LMT=-20364 CST=-21600 CDT=-18000 CWT=-18000 CPT=-18000 EST=-18000 EDT=-14400
  @ -2717647200b -1633276800c -1615136400b -1601827200c -1583686800b -880214400d -769395600e
  -765392400b -52934400c -37213200b -21484800c -5763600b 9964800c 25686000b 41414400c
  57740400b 73468800c 89190000b 104918400c 120639600b 126691200c 152089200b 162374400c
  183538800b 199267200c 215593200b 230716800c 247042800b 262771200c 278492400b 294220800c
  309942000b 325670400c 341391600b 357120000c 372841200b 388569600c 404895600b 420019200c
  436345200b 452073600c 467794800b 483523200c 499244400b 514972800c 530694000b 544608000c
  562143600b 576057600c 594198000b 607507200c 625647600b 638956800c 657097200b 671011200c
  688546800b 702460800c 719996400b 733910400c 752050800b 765360000c 783500400b 796809600c
  814950000b 828864000c 846399600b 860313600c 877849200b 891763200c 909298800b 923212800c
  941353200b 954662400c 972802800f 986108400g 1004248800f 1018162800g 1035698400f 1049612400g
  1067148000f 1081062000g 1099202400f 1112511600g 1130652000f 1143961200g 1162101600f
  + 2007 3.2.0:25200g 11.1.0:21600f
America/La_Paz
  LMT=-16356 CMT=-16356 BST=-12756 -04=-14400
  @ -2524505244b -1205954844c -1192307244d
America/Lima
  LMT=-18492 LMT=-18516 -05=-18000 -04=-14400
  @ -2524503108b -1938538284c -1009825200d -1002052800c -986756400d -971035200c -955306800d
  -939585600c 504939600d 512712000c 536475600d 544248000c 631170000d 638942400c 757400400d
  765172800c
America/Los_Angeles
  LMT=-28378 PST=-28800 PDT=-25200 PWT=-25200 PPT=-25200
  @ -2717640000b -1633269600c -1615129200b -1601820000c -1583679600b -880207200d -769395600e
  -765385200b -687967140c -662655600b -620838000c -608137200b -589388400c -576082800b
  -557938800c -544633200b -526489200c -513183600b -495039600c -481734000b -463590000c
  -450284400b -431535600c -418230000b -400086000c -386780400b -368636400c -355330800b
  -337186800c -323881200b -305737200c -292431600b -273682800c -260982000b -242233200c
  -226508400b -210783600c -195058800b -179334000c -163609200b -147884400c -131554800b
  -116434800c -100105200b -84376800c -68655600b -52927200c -37206000b -21477600c -5756400b
  9972000c 25693200b 41421600c 57747600b 73476000c 89197200b 104925600c 120646800b 126698400c
  152096400b 162381600c 183546000b 199274400c 215600400b 230724000c 247050000b 262778400c
  278499600b 294228000c 309949200b 325677600c 341398800b 357127200c 372848400b 388576800c
  404902800b 420026400c 436352400b 452080800c 467802000b 483530400c 499251600b 514980000c
  530701200b 544615200c 562150800b 576064800c 594205200b 607514400c 625654800b 638964000c
  657104400b 671018400c 688554000b 702468000c 720003600b 733917600c 752058000b 765367200c
  783507600b 796816800c 814957200b 828871200c 846406800b 860320800c 877856400b 891770400c
  909306000b 923220000c 941360400b 954669600c 972810000b 986119200c 1004259600b 1018173600c
  1035709200b 1049623200c 1067158800b 1081072800c 1099213200b 1112522400c 1130662800b
  1143972000c 1162112400b
  + 2007 3.2.0:36000c 11.1.0:32400b
America/Maceio
  LMT=-8572 -03=-10800 -02=-7200
  @ -1767217028b -1206957600c -1191362400b -1175374800c -1159826400b -633819600c -622069200b
  -602283600c -591832800b -570747600c -560210400b -539125200c -531352800b -191365200c
  -184197600b -155163600c -150069600b -128898000c -121125600b -99954000c -89589600b -68418000c
  -57967200b 499748400c 511236000b 530593200c 540266400b 562129200c 571197600b 592974000c
  602042400b 624423600c 634701600b 813726000c 824004000b 938919600c 951616800b 970974000c
  972180000b 1003028400c 1013911200b
America/Managua
  LMT=-20708 MMT=-20712 CST=-21600 EST=-18000 CDT=-18000
  @ -2524500892b -1121105688c 105084000d 161758800c 290584800e 299134800c 322034400e 330584400c
  694260000d 717310800c 725868000d 852094800c 1113112800e 1128229200c 1146384000e 1159682400c
America/Manaus
  LMT=-14404 -04=-14400 -03=-10800
  @ -1767211196b -1206954000c -1191358800b -1175371200c -1159822800b -633816000c -622065600b
  -602280000c -591829200b -570744000c -560206800b -539121600c -531349200b -191361600c
  -184194000b -155160000c -150066000b -128894400c -121122000b -99950400c -89586000b -68414400c
  -57963600b 499752000c 511239600b 530596800c 540270000b 562132800c 571201200b 750830400c
  761713200b
America/Martinique
  LMT=-14660 FFMT=-14660 AST=-14400 ADT=-10800
  @ -2524506940b -1851537340c 323841600d 338958000c
America/Matamoros
  LMT=-23400 CST=-21600 CDT=-18000
  @ -1514743200b 576057600c 594198000b 828864000c 846399600b 860313600c 877849200b 891763200c
  909298800b 923212800c 941353200b 954662400c 972802800b 989136000c 1001833200b 1018166400c
  1035702000b 1049616000c 1067151600b 1081065600c 1099206000b 1112515200c 1130655600b
  1143964800c 1162105200b 1175414400c 1193554800b 1207468800c 1225004400b 1238918400c
  1256454000b
  + 2010 3.2.0:28800c 11.1.0:25200b
America/Mazatlan
  LMT=-25540 MST=-25200 CST=-21600 MDT=-21600
  @ -1514739600b -1343149200c -1234807200b -1220461200d -1207159200b -1191344400c -873828000b
  828867600d 846403200b 860317200d 877852800b 891766800d 909302400b 923216400d 941356800b
  954666000d 972806400b 989139600d 1001836800b 1018170000d 1035705600b 1049619600d 1067155200b
  1081069200d 1099209600b 1112518800d 1130659200b 1143968400d 1162108800b 1175418000d
  1193558400b 1207472400d 1225008000b 1238922000d 1256457600b 1270371600d 1288512000b
  1301821200d 1319961600b 1333270800d 1351411200b 1365325200d 1382860800b 1396774800d
  1414310400b 1428224400d 1445760000b 1459674000d 1477814400b 1491123600d 1509264000b
  1522573200d 1540713600b 1554627600d 1572163200b 1586077200d 1603612800b 1617526800d
  1635667200b 1648976400d 1667116800b
America/Menominee
  LMT=-21027 CST=-21600 CDT=-18000 CWT=-18000 CPT=-18000 EST=-18000
  @ -2659759773b -1633276800c -1615136400b -1601827200c -1583686800b -880214400d -769395600e
  -765392400b -747244800c -733942800b -116438400c -100112400b -21484800f 104914800c 120639600b
  126691200c 152089200b 162374400c 183538800b 199267200c 215593200b 230716800c 247042800b
  262771200c 278492400b 294220800c 309942000b 325670400c 341391600b 357120000c 372841200b
  388569600c 404895600b 420019200c 436345200b 452073600c 467794800b 483523200c 499244400b
  514972800c 530694000b 544608000c 562143600b 576057600c 594198000b 607507200c 625647600b
  638956800c 657097200b 671011200c 688546800b 702460800c 719996400b 733910400c 752050800b
  765360000c 783500400b 796809600c 814950000b 828864000c 846399600b 860313600c 877849200b
  891763200c 909298800b 923212800c 941353200b 954662400c 972802800b 986112000c 1004252400b
  1018166400c 1035702000b 1049616000c 1067151600b 1081065600c 1099206000b 1112515200c
  1130655600b 1143964800c 1162105200b
  + 2007 3.2.0:28800c 11.1.0:25200b
America/Merida
  LMT=-21508 CST=-21600 EST=-18000 CDT=-18000
  @ -1514743200b 378201600c 405068400b 828864000d 846399600b 860313600d 877849200b 891763200d
  909298800b 923212800d 941353200b 954662400d 972802800b 989136000d 1001833200b 1018166400d
  1035702000b 1049616000d 1067151600b 1081065600d 1099206000b 1112515200d 1130655600b
  1143964800d 1162105200b 1175414400d 1193554800b 1207468800d 1225004400b 1238918400d
  1256454000b 1270368000d 1288508400b 1301817600d 1319958000b 1333267200d 1351407600b
  1365321600d 1382857200b 1396771200d 1414306800b 1428220800d 1445756400b 1459670400d
  1477810800b 1491120000d 1509260400b 1522569600d 1540710000b 1554624000d 1572159600b
  1586073600d 1603609200b 1617523200d 1635663600b 1648972800d 1667113200b
America/Metlakatla
  LMT=54822 LMT=-31578 PST=-28800 PWT=-25200 PPT=-25200 PDT=-25200 AKST=-32400 AKDT=-28800
  @ -3225223727b -2188955622c -880207200d -769395600e -765385200c -21477600f -5756400c 9972000f
  25693200c 41421600f 57747600c 73476000f 89197200c 104925600f 120646800c 126698400f
  152096400c 162381600f 183546000c 199274400f 215600400c 230724000f 247050000c 262778400f
  278499600c 294228000f 309949200c 325677600f 341398800c 357127200f 372848400c 388576800f
  404902800c 420026400f 436352400c 1446372000g 1457866800h 1478426400g 1489316400h 1509876000g
  1520766000h 1541325600c 1547978400g 1552215600h 1572775200g
  + 2020 3.2.0:39600h 11.1.0:36000g
America/Mexico_City
  LMT=-23796 MST=-25200 CST=-21600 MDT=-21600 CDT=-18000 CWT=-18000
  @ -1514739600b -1343149200c -1234807200b -1220461200d -1207159200b -1191344400c -975261600e
  -963169200c -917114400e -907354800c -821901600f -810068400c -627501600e -612990000c
  828864000e 846399600c 860313600e 877849200c 891763200e 909298800c 923212800e 941353200c
  954662400e 972802800c 989136000e 1001833200c 1018166400e 1035702000c 1049616000e 1067151600c
  1081065600e 1099206000c 1112515200e 1130655600c 1143964800e 1162105200c 1175414400e
  1193554800c 1207468800e 1225004400c 1238918400e 1256454000c 1270368000e 1288508400c
  1301817600e 1319958000c 1333267200e 1351407600c 1365321600e 1382857200c 1396771200e
  1414306800c 1428220800e 1445756400c 1459670400e 1477810800c 1491120000e 1509260400c
  1522569600e 1540710000c 1554624000e 1572159600c 1586073600e 1603609200c 1617523200e
  1635663600c 1648972800e 1667113200c
America/Miquelon
  LMT=-13480 AST=-14400 -03=-10800 -02=-7200
  @ -1847650520b 326001600c 544597200d 562132800c 576046800d 594187200c 607496400d 625636800c
  638946000d 657086400c 671000400d 688536000c 702450000d 719985600c 733899600d 752040000c
  765349200d 783489600c 796798800d 814939200c 828853200d 846388800c 860302800d 877838400c
  891752400d 909288000c 923202000d 941342400c 954651600d 972792000c 986101200d 1004241600c
  1018155600d 1035691200c 1049605200d 1067140800c 1081054800d 1099195200c 1112504400d
  1130644800c 1143954000d 1162094400c
  + 2007 3.2.0:18000d 11.1.0:14400c
America/Moncton
  LMT=-15548 EST=-18000 AST=-14400 ADT=-10800 AWT=-10800 APT=-10800
  @ -2715882052b -2131642800c -1632074400d -1615143600c -1153681200d -1145822400c -1122231600d
  -1114372800c -1090782000d -1082923200c -1059332400d -1051473600c -1027882800d -1020024000c
  -996433200d -988574400c -965674800d -955396800c -934743600d -923947200c -904503600d
  -891892800c -880221600e -769395600f -765399600c -747252000d -733950000c -715802400d
  -702500400c -684352800d -671050800c -652903200d -639601200c -620848800d -608151600c
  -589399200d -576097200c -557949600d -544647600c -526500000d -513198000c -495050400d
  -481748400c -463600800d -450298800c -431546400d -418244400c -400096800d -384375600c
  -368647200d -352926000c -337197600d -321476400c -305748000d -289422000c -273693600d
  -257972400c -242244000d -226522800c -210794400d -195073200c -179344800d -163623600c
  -147895200d -131569200c -116445600d -100119600c -84391200d -68670000c -52941600d -37220400c
  -21492000d -5770800c 9957600d 25678800c 41407200d 57733200c 73461600d 89182800c 136360800d
  152082000c 167810400d 183531600c 199260000d 215586000c 230709600d 247035600c 262764000d
  278485200c 294213600d 309934800c 325663200d 341384400c 357112800d 372834000c 388562400d
  404888400c 420012000d 436338000c 452066400d 467787600c 483516000d 499237200c 514965600d
  530686800c 544600800d 562136400c 576050400d 594190800c 607500000d 625640400c 638949600d
  657090000c 671004000d 688539600c 702453600d 719989200c 733896060d 752036460c 765345660d
  783486060c 796795260d 814935660c 828849660d 846385260c 860299260d 877834860c 891748860d
  909284460c 923198460d 941338860c 954648060d 972788460c 986097660d 1004238060c 1018152060d
  1035687660c 1049601660d 1067137260c 1081051260d 1099191660c 1112500860d 1130641260c
  1143950460d 1162090860c
  + 2007 3.2.0:21600d 11.1.0:18000c
America/Monterrey
  LMT=-24076 MST=-25200 CST=-21600 MDT=-21600 CDT=-18000
  @ -1514743200b -1343149200c -1234807200b -1220461200d -1207159200b -1191344400c 576057600e
  594198000c 828864000e 846399600c 860313600e 877849200c 891763200e 909298800c 923212800e
  941353200c 954662400e 972802800c 989136000e 1001833200c 1018166400e 1035702000c 1049616000e
  1067151600c 1081065600e 1099206000c 1112515200e 1130655600c 1143964800e 1162105200c
  1175414400e 1193554800c 1207468800e 1225004400c 1238918400e 1256454000c 1270368000e
  1288508400c 1301817600e 1319958000c 1333267200e 1351407600c 1365321600e 1382857200c
  1396771200e 1414306800c 1428220800e 1445756400c 1459670400e 1477810800c 1491120000e
  1509260400c 1522569600e 1540710000c 1554624000e 1572159600c 1586073600e 1603609200c
  1617523200e 1635663600c 1648972800e 1667113200c
America/Montevideo
  LMT=-13491 MMT=-13491 -04=-14400 -03=-10800 -0330=-12600 -0230=-9000 -02=-7200 -0130=-5400
  @ -1942690509b -1567455309c -1459627200d -1443819600e -1428006600d -1412283600e -1396470600d
  -1380747600e -1141590600d -1128286800e -1110141000d -1096837200e -1078691400d -1065387600e
  -1047241800d -1033938000e -1015187400d -1002488400e -983737800d -971038800e -954707400d
  -938984400e -920838600d -907534800e -896819400d -853621200f -845847000d -334789200f
  -319671000d -314226000g -309996000d -149720400g -134604000d -50446800f -34205400d 9860400g
  14176800d 72846000g 80100000d 127278000h 132111000f 147234600d 156913200g 165376800d
  219812400g 226461600d 250052400g 257911200d 282711600g 289360800d 294202800g 322020000d
  566449200g 573012000d 597812400g 605066400d 625633200g 635911200d 656478000g 667965600d
  688532400g 699415200d 719377200g 730864800d 1095562800g 1111896000d 1128834000g 1142136000d
  1159678800g 1173585600d 1191733200g 1205035200d 1223182800g 1236484800d 1254632400g
  1268539200d 1286082000g 1299988800d 1317531600g 1331438400d 1349586000g 1362888000d
  1381035600g 1394337600d 1412485200g 1425787200d
America/New_York
  LMT=-17762 EST=-18000 EDT=-14400 EWT=-14400 EPT=-14400
  @ -2717650800b -1633280400c -1615140000b -1601830800c -1583690400b -1570381200c -1551636000b
  -1536512400c -1523210400b -1504458000c -1491760800b -1473008400c -1459706400b -1441558800c
  -1428256800b -1410109200c -1396807200b -1378659600c -1365357600b -1347210000c -1333908000b
  -1315155600c -1301853600b -1283706000c -1270404000b -1252256400c -1238954400b -1220806800c
  -1207504800b -1189357200c -1176055200b -1157302800c -1144605600b -1125853200c -1112551200b
  -1094403600c -1081101600b -1062954000c -1049652000b -1031504400c -1018202400b -1000054800c
  -986752800b -968000400c -955303200b -936550800c -923248800b -905101200c -891799200b
  -880218000d -769395600e -765396000b -747248400c -733946400b -715798800c -702496800b
  -684349200c -671047200b -652899600c -639597600b -620845200c -608148000b -589395600c
  -576093600b -557946000c -544644000b -526496400c -513194400b -495046800c -481744800b
  -463597200c -447271200b -431542800c -415821600b -400093200c -384372000b -368643600c
  -352922400b -337194000c -321472800b -305744400c -289418400b -273690000c -257968800b
  -242240400c -226519200b -210790800c -195069600b -179341200c -163620000b -147891600c
  -131565600b -116442000c -100116000b -84387600c -68666400b -52938000c -37216800b -21488400c
  -5767200b 9961200c 25682400b 41410800c 57736800b 73465200c 89186400b 104914800c 120636000b
  126687600c 152085600b 162370800c 183535200b 199263600c 215589600b 230713200c 247039200b
  262767600c 278488800b 294217200c 309938400b 325666800c 341388000b 357116400c 372837600b
  388566000c 404892000b 420015600c 436341600b 452070000c 467791200b 483519600c 499240800b
  514969200c 530690400b 544604400c 562140000b 576054000c 594194400b 607503600c 625644000b
  638953200c 657093600b 671007600c 688543200b 702457200c 719992800b 733906800c 752047200b
  765356400c 783496800b 796806000c 814946400b 828860400c 846396000b 860310000c 877845600b
  891759600c 909295200b 923209200c 941349600b 954658800c 972799200b 986108400c 1004248800b
  1018162800c 1035698400b 1049612400c 1067148000b 1081062000c 1099202400b 1112511600c
  1130652000b 1143961200c 1162101600b
  + 2007 3.2.0:25200c 11.1.0:21600b
America/Nome
  LMT=46702 LMT=-39698 NST=-39600 NWT=-36000 NPT=-36000 BST=-39600 BDT=-36000 YST=-32400
  AKST=-32400 AKDT=-28800
  @ -3225223727b -2188947502c -880196400d -769395600e -765374400c -86878800f -21466800g
  -5745600f 9982800g 25704000f 41432400g 57758400f 73486800g 89208000f 104936400g 120657600f
  126709200g 152107200f 162392400g 183556800f 199285200g 215611200f 230734800g 247060800f
  262789200g 278510400f 294238800g 309960000f 325688400g 341409600f 357138000g 372859200f
  388587600g 404913600f 420037200g 436363200h 439030800i 452084400j 467805600i 483534000j
  499255200i 514983600j 530704800i 544618800j 562154400i 576068400j 594208800i 607518000j
  625658400i 638967600j 657108000i 671022000j 688557600i 702471600j 720007200i 733921200j
  752061600i 765370800j 783511200i 796820400j 814960800i 828874800j 846410400i 860324400j
  877860000i 891774000j 909309600i 923223600j 941364000i 954673200j 972813600i 986122800j
  1004263200i 1018177200j 1035712800i 1049626800j 1067162400i 1081076400j 1099216800i
  1112526000j 1130666400i 1143975600j 1162116000i
  + 2007 3.2.0:39600j 11.1.0:36000i
America/Noronha
  LMT=-7780 -02=-7200 -01=-3600
  @ -1767217820b -1206961200c -1191366000b -1175378400c -1159830000b -633823200c -622072800b
  -602287200c -591836400b -570751200c -560214000b -539128800c -531356400b -191368800c
  -184201200b -155167200c -150073200b -128901600c -121129200b -99957600c -89593200b -68421600c
  -57970800b 499744800c 511232400b 530589600c 540262800b 562125600c 571194000b 592970400c
  602038800b 624420000c 634698000b 938916000c 951613200b 970970400c 971571600b 1003024800c
  1013907600b
America/North_Dakota/Beulah
  LMT=-24427 MST=-25200 MDT=-21600 MWT=-21600 MPT=-21600 CST=-21600 CDT=-18000
  @ -2717643600b -1633273200c -1615132800b -1601823600c -1583683200b -880210800d -769395600e
  -765388800b -84380400c -68659200b -52930800c -37209600b -21481200c -5760000b 9968400c
  25689600b 41418000c 57744000b 73472400c 89193600b 104922000c 120643200b 126694800c
  152092800b 162378000c 183542400b 199270800c 215596800b 230720400c 247046400b 262774800c
  278496000b 294224400c 309945600b 325674000c 341395200b 357123600c 372844800b 388573200c
  404899200b 420022800c 436348800b 452077200c 467798400b 483526800c 499248000b 514976400c
  530697600b 544611600c 562147200b 576061200c 594201600b 607510800c 625651200b 638960400c
  657100800b 671014800c 688550400b 702464400c 720000000b 733914000c 752054400b 765363600c
  783504000b 796813200c 814953600b 828867600c 846403200b 860317200c 877852800b 891766800c
  909302400b 923216400c 941356800b 954666000c 972806400b 986115600c 1004256000b 1018170000c
  1035705600b 1049619600c 1067155200b 1081069200c 1099209600b 1112518800c 1130659200b
  1143968400c 1162108800b 1173603600c 1194163200b 1205053200c 1225612800b 1236502800c
  1257062400b 1268557200c 1289116800f
  + 2011 3.2.0:28800g 11.1.0:25200f
America/North_Dakota/Center
  LMT=-24312 MST=-25200 MDT=-21600 MWT=-21600 MPT=-21600 CST=-21600 CDT=-18000
  @ -2717643600b -1633273200c -1615132800b -1601823600c -1583683200b -880210800d -769395600e
  -765388800b -84380400c -68659200b -52930800c -37209600b -21481200c -5760000b 9968400c
  25689600b 41418000c 57744000b 73472400c 89193600b 104922000c 120643200b 126694800c
  152092800b 162378000c 183542400b 199270800c 215596800b 230720400c 247046400b 262774800c
  278496000b 294224400c 309945600b 325674000c 341395200b 357123600c 372844800b 388573200c
  404899200b 420022800c 436348800b 452077200c 467798400b 483526800c 499248000b 514976400c
  530697600b 544611600c 562147200b 576061200c 594201600b 607510800c 625651200b 638960400c
  657100800b 671014800c 688550400b 702464400c 720000000f 733910400g 752050800f 765360000g
  783500400f 796809600g 814950000f 828864000g 846399600f 860313600g 877849200f 891763200g
  909298800f 923212800g 941353200f 954662400g 972802800f 986112000g 1004252400f 1018166400g
  1035702000f 1049616000g 1067151600f 1081065600g 1099206000f 1112515200g 1130655600f
  1143964800g 1162105200f
  + 2007 3.2.0:28800g 11.1.0:25200f
America/North_Dakota/New_Salem
  LMT=-24339 MST=-25200 MDT=-21600 MWT=-21600 MPT=-21600 CST=-21600 CDT=-18000
  @ -2717643600b -1633273200c -1615132800b -1601823600c -1583683200b -880210800d -769395600e
  -765388800b -84380400c -68659200b -52930800c -37209600b -21481200c -5760000b 9968400c
  25689600b 41418000c 57744000b 73472400c 89193600b 104922000c 120643200b 126694800c
  152092800b 162378000c 183542400b 199270800c 215596800b 230720400c 247046400b 262774800c
  278496000b 294224400c 309945600b 325674000c 341395200b 357123600c 372844800b 388573200c
  404899200b 420022800c 436348800b 452077200c 467798400b 483526800c 499248000b 514976400c
  530697600b 544611600c 562147200b 576061200c 594201600b 607510800c 625651200b 638960400c
  657100800b 671014800c 688550400b 702464400c 720000000b 733914000c 752054400b 765363600c
  783504000b 796813200c 814953600b 828867600c 846403200b 860317200c 877852800b 891766800c
  909302400b 923216400c 941356800b 954666000c 972806400b 986115600c 1004256000b 1018170000c
  1035705600b 1049619600c 1067155200f 1081065600g 1099206000f 1112515200g 1130655600f
  1143964800g 1162105200f
  + 2007 3.2.0:28800g 11.1.0:25200f
America/Nuuk
  LMT=-12416 -03=-10800 -02=-7200 -01=-3600
  @ -1686083584b 323845200c 338950800b 354675600c 370400400b 386125200c 401850000b 417574800c
  433299600b 449024400c 465354000b 481078800c 496803600b 512528400c 528253200b 543978000c
  559702800b 575427600c 591152400b 606877200c 622602000b 638326800c 654656400b 670381200c
  686106000b 701830800c 717555600b 733280400c 749005200b 764730000c 780454800b 796179600c
  811904400b 828234000c 846378000b 859683600c 877827600b 891133200c 909277200b 922582800c
  941331600b 954032400c 972781200b 985482000c 1004230800b 1017536400c 1035680400b 1048986000c
  1067130000b 1080435600c 1099184400b 1111885200c 1130634000b 1143334800c 1162083600b
  1174784400c 1193533200b 1206838800c 1224982800b 1238288400c 1256432400b 1269738000c
  1288486800b 1301187600c 1319936400b 1332637200c 1351386000b 1364691600c 1382835600b
  1396141200c 1414285200b 1427590800c 1445734800b 1459040400c 1477789200b 1490490000c
  1509238800b 1521939600c 1540688400b 1553994000c 1572138000b 1585443600c 1603587600b
  1616893200c 1635642000b 1648342800c 1667091600b 1679792400c
  + 2024 3.5.0:3600d 10.5.0:3600c
America/Ojinaga
  LMT=-25060 MST=-25200 CST=-21600 MDT=-21600 CDT=-18000
  @ -1514739600b -1343149200c -1234807200b -1220461200d -1207159200b -1191344400c 828864000e
  846399600c 860313600e 877849200c 891766800d 909302400b 923216400d 941356800b 954666000d
  972806400b 989139600d 1001836800b 1018170000d 1035705600b 1049619600d 1067155200b
  1081069200d 1099209600b 1112518800d 1130659200b 1143968400d 1162108800b 1175418000d
  1193558400b 1207472400d 1225008000b 1238922000d 1256457600b 1268557200d 1289116800b
  1300006800d 1320566400b 1331456400d 1352016000b 1362906000d 1383465600b 1394355600d
  1414915200b 1425805200d 1446364800b 1457859600d 1478419200b 1489309200d 1509868800b
  1520758800d 1541318400b 1552208400d 1572768000b 1583658000d 1604217600b 1615712400d
  1636272000b 1647162000d 1667116800c
  + 2023 3.2.0:28800e 11.1.0:25200c
America/Panama
  LMT=-19088 CMT=-19176 EST=-18000
  @ -2524502512b -1946918424c
America/Paramaribo
  LMT=-13240 PMT=-13252 PMT=-13236 -0330=-12600 -03=-10800
  @ -1861906760b -1104524348c -765317964d 465449400e
America/Phoenix
  LMT=-26898 MST=-25200 MDT=-21600 MWT=-21600
  @ -2717643600b -1633273200c -1615132800b -1601823600c -1583683200b -880210800d -820519140b
  -812653140d -796845540b -84380400c -68659200b
America/Port-au-Prince
  LMT=-17360 PPMT=-17340 EST=-18000 EDT=-14400
  @ -2524504240b -1670483460c 421218000d 436334400c 452062800d 467784000c 483512400d 499233600c
  514962000d 530683200c 546411600d 562132800c 576050400d 594194400c 607500000d 625644000c
  638949600d 657093600c 671004000d 688543200c 702453600d 719992800c 733903200d 752047200c
  765352800d 783496800c 796802400d 814946400c 828856800d 846396000c 860306400d 877845600c
  1112504400d 1130644800c 1143954000d 1162094400c 1331449200d 1352008800c 1362898800d
  1383458400c 1394348400d 1414908000c 1425798000d 1446357600c
  + 2017 3.2.0:25200d 11.1.0:21600c
America/Porto_Velho
  LMT=-15336 -04=-14400 -03=-10800
  @ -1767210264b -1206954000c -1191358800b -1175371200c -1159822800b -633816000c -622065600b
  -602280000c -591829200b -570744000c -560206800b -539121600c -531349200b -191361600c
  -184194000b -155160000c -150066000b -128894400c -121122000b -99950400c -89586000b -68414400c
  -57963600b 499752000c 511239600b 530596800c 540270000b 562132800c 571201200b
America/Puerto_Rico
  LMT=-15865 AST=-14400 AWT=-10800 APT=-10800
  @ -2233035335b -873057600c -769395600d -765399600b
America/Punta_Arenas
  LMT=-17020 SMT=-16965 -05=-18000 -04=-14400 -03=-10800
  @ -2524504580b -1892661435c -1688410800b -1619205435d -1593806400b -1335986235d -1317585600c
  -1304362800d -1286049600c -1272826800d -1254513600c -1241290800d -1222977600c -1209754800d
  -1191355200c -1178132400d -870552000c -865278000d -718056000c -713649600d -36619200e
  -23922000d -3355200e 7527600d 24465600e 37767600d 55915200e 69217200d 87969600e 100666800d
  118209600e 132116400d 150868800e 163566000d 182318400e 195620400d 213768000e 227070000d
  245217600e 258519600d 277272000e 289969200d 308721600e 321418800d 340171200e 353473200d
  371620800e 384922800d 403070400e 416372400d 434520000e 447822000d 466574400e 479271600d
  498024000e 510721200d 529473600e 545194800d 560923200e 574225200d 592372800e 605674800d
  624427200e 637124400d 653457600e 668574000d 687326400e 700628400d 718776000e 732078000d
  750225600e 763527600d 781675200e 794977200d 813729600e 826426800d 845179200e 859690800d
  876628800e 889930800d 906868800e 923194800d 939528000e 952830000d 971582400e 984279600d
  1003032000e 1015729200d 1034481600e 1047178800d 1065931200e 1079233200d 1097380800e
  1110682800d 1128830400e 1142132400d 1160884800e 1173582000d 1192334400e 1206846000d
  1223784000e 1237086000d 1255233600e 1270350000d 1286683200e 1304823600d 1313899200e
  1335668400d 1346558400e 1367118000d 1378612800e 1398567600d 1410062400e 1463281200d
  1471147200e
America/Rankin_Inlet
  -00=0 CST=-21600 CDT=-18000 EST=-18000
  @ -410227200b 73468800c 89190000b 104918400c 120639600b 136368000c 152089200b 167817600c
  183538800b 199267200c 215593200b 230716800c 247042800b 262771200c 278492400b 294220800c
  309942000b 325670400c 341391600b 357120000c 372841200b 388569600c 404895600b 420019200c
  436345200b 452073600c 467794800b 483523200c 499244400b 514972800c 530694000b 544608000c
  562143600b 576057600c 594198000b 607507200c 625647600b 638956800c 657097200b 671011200c
  688546800b 702460800c 719996400b 733910400c 752050800b 765360000c 783500400b 796809600c
  814950000b 828864000c 846399600b 860313600c 877849200b 891763200c 909298800b 923212800c
  941353200b 954662400c 972802800d 986112000c 1004252400b 1018166400c 1035702000b 1049616000c
  1067151600b 1081065600c 1099206000b 1112515200c 1130655600b 1143964800c 1162105200b
  + 2007 3.2.0:28800c 11.1.0:25200b
America/Recife
  LMT=-8376 -03=-10800 -02=-7200
  @ -1767217224b -1206957600c -1191362400b -1175374800c -1159826400b -633819600c -622069200b
  -602283600c -591832800b -570747600c -560210400b -539125200c -531352800b -191365200c
  -184197600b -155163600c -150069600b -128898000c -121125600b -99954000c -89589600b -68418000c
  -57967200b 499748400c 511236000b 530593200c 540266400b 562129200c 571197600b 592974000c
  602042400b 624423600c 634701600b 938919600c 951616800b 970974000c 971575200b 1003028400c
  1013911200b
America/Regina
  LMT=-25116 MST=-25200 MDT=-21600 MWT=-21600 MPT=-21600 CST=-21600
  @ -2030202084b -1632063600c -1615132800b -1251651600c -1238349600b -1220202000c -1206900000b
  -1188752400c -1175450400b -1156698000c -1144000800b -1125248400c -1111946400b -1032714000c
  -1016992800b -1001264400c -986148000b -969814800c -954093600b -937760400c -922039200b
  -906310800c -890589600b -880210800d -769395600e -765388800b -748450800c -732729600b
  -715791600c -702489600b -684342000c -671040000b -652892400c -639590400b -620838000c
  -608140800b -589388400c -576086400b -557938800c -544636800b -526489200c -513187200b
  -495039600c -481737600b -463590000c -450288000b -431535600c -418233600b -400086000c
  -386784000b -337186800c -321465600b -305737200f
America/Resolute
  -00=0 CST=-21600 CDT=-18000 EST=-18000
  @ -704937600b 73468800c 89190000b 104918400c 120639600b 136368000c 152089200b 167817600c
  183538800b 199267200c 215593200b 230716800c 247042800b 262771200c 278492400b 294220800c
  309942000b 325670400c 341391600b 357120000c 372841200b 388569600c 404895600b 420019200c
  436345200b 452073600c 467794800b 483523200c 499244400b 514972800c 530694000b 544608000c
  562143600b 576057600c 594198000b 607507200c 625647600b 638956800c 657097200b 671011200c
  688546800b 702460800c 719996400b 733910400c 752050800b 765360000c 783500400b 796809600c
  814950000b 828864000c 846399600b 860313600c 877849200b 891763200c 909298800b 923212800c
  941353200b 954662400c 972802800d 986112000c 1004252400b 1018166400c 1035702000b 1049616000c
  1067151600b 1081065600c 1099206000b 1112515200c 1130655600b 1143964800c 1162105200d
  + 2007 3.2.0:28800c 11.1.0:25200b
America/Rio_Branco
  LMT=-16272 -05=-18000 -04=-14400
  @ -1767209328b -1206950400c -1191355200b -1175367600c -1159819200b -633812400c -622062000b
  -602276400c -591825600b -570740400c -560203200b -539118000c -531345600b -191358000c
  -184190400b -155156400c -150062400b -128890800c -121118400b -99946800c -89582400b -68410800c
  -57960000b 499755600c 511243200b 530600400c 540273600b 562136400c 571204800b 1214283600c
  1384056000b
America/Santarem
  LMT=-13128 -04=-14400 -03=-10800
  @ -1767212472b -1206954000c -1191358800b -1175371200c -1159822800b -633816000c -622065600b
  -602280000c -591829200b -570744000c -560206800b -539121600c -531349200b -191361600c
  -184194000b -155160000c -150066000b -128894400c -121122000b -99950400c -89586000b -68414400c
  -57963600b 499752000c 511239600b 530596800c 540270000b 562132800c 571201200b 1214280000c
America/Santiago
  LMT=-16965 SMT=-16965 -05=-18000 -04=-14400 -03=-10800
  @ -2524504635b -1892661435c -1688410800b -1619205435d -1593806400b -1335986235d -1317585600c
  -1304362800d -1286049600c -1272826800d -1254513600c -1241290800d -1222977600c -1209754800d
  -1191355200c -1178132400d -870552000c -865278000d -740520000e -736635600d -718056000c
  -713649600d -36619200e -23922000d -3355200e 7527600d 24465600e 37767600d 55915200e 69217200d
  87969600e 100666800d 118209600e 132116400d 150868800e 163566000d 182318400e 195620400d
  213768000e 227070000d 245217600e 258519600d 277272000e 289969200d 308721600e 321418800d
  340171200e 353473200d 371620800e 384922800d 403070400e 416372400d 434520000e 447822000d
  466574400e 479271600d 498024000e 510721200d 529473600e 545194800d 560923200e 574225200d
  592372800e 605674800d 624427200e 637124400d 653457600e 668574000d 687326400e 700628400d
  718776000e 732078000d 750225600e 763527600d 781675200e 794977200d 813729600e 826426800d
  845179200e 859690800d 876628800e 889930800d 906868800e 923194800d 939528000e 952830000d
  971582400e 984279600d 1003032000e 1015729200d 1034481600e 1047178800d 1065931200e
  1079233200d 1097380800e 1110682800d 1128830400e 1142132400d 1160884800e 1173582000d
  1192334400e 1206846000d 1223784000e 1237086000d 1255233600e 1270350000d 1286683200e
  1304823600d 1313899200e 1335668400d 1346558400e 1367118000d 1378612800e 1398567600d
  1410062400e 1463281200d 1471147200e 1494730800d 1502596800e 1526180400d 1534046400e
  1554606000d 1567915200e 1586055600d 1599364800e 1617505200d 1630814400e 1648954800d
  1662868800e
  + 2023 9.1.6:100800e 4.1.6:97200d
America/Santo_Domingo
  LMT=-16776 SDMT=-16800 EST=-18000 EDT=-14400 -0430=-16200 AST=-14400
  @ -2524504824b -1159773600c -100119600d -89668800c -5770800e 4422600c 25678800e 33193800c
  57733200e 64816200c 89182800e 96438600c 120632400e 127974600c 152082000f 972799200c
  975823200f
America/Sao_Paulo
  LMT=-11188 -03=-10800 -02=-7200
  @ -1767214412b -1206957600c -1191362400b -1175374800c -1159826400b -633819600c -622069200b
  -602283600c -591832800b -570747600c -560210400b -539125200c -531352800b -195426000c
  -184197600b -155163600c -150069600b -128898000c -121125600b -99954000c -89589600b -68418000c
  -57967200b 499748400c 511236000b 530593200c 540266400b 562129200c 571197600b 592974000c
  602042400b 624423600c 634701600b 656478000c 666756000b 687927600c 697600800b 719982000c
  728445600b 750826800c 761709600b 782276400c 793159200b 813726000c 824004000b 844570800c
  856058400b 876106800c 888717600b 908074800c 919562400b 938919600c 951616800b 970974000c
  982461600b 1003028400c 1013911200b 1036292400c 1045360800b 1066532400c 1076810400b
  1099364400c 1108864800b 1129431600c 1140314400b 1162695600c 1172368800b 1192330800c
  1203213600b 1224385200c 1234663200b 1255834800c 1266717600b 1287284400c 1298167200b
  1318734000c 1330221600b 1350788400c 1361066400b 1382238000c 1392516000b 1413687600c
  1424570400b 1445137200c 1456020000b 1476586800c 1487469600b 1508036400c 1518919200b
  1541300400c 1550368800b
America/Scoresbysund
  LMT=-5272 -02=-7200 -01=-3600 +00=0
  @ -1686090728b 323841600c 338961600b 354679200d 370400400c 386125200d 401850000c 417574800d
  433299600c 449024400d 465354000c 481078800d 496803600c 512528400d 528253200c 543978000d
  559702800c 575427600d 591152400c 606877200d 622602000c 638326800d 654656400c 670381200d
  686106000c 701830800d 717555600c 733280400d 749005200c 764730000d 780454800c 796179600d
  811904400c 828234000d 846378000c 859683600d 877827600c 891133200d 909277200c 922582800d
  941331600c 954032400d 972781200c 985482000d 1004230800c 1017536400d 1035680400c 1048986000d
  1067130000c 1080435600d 1099184400c 1111885200d 1130634000c 1143334800d 1162083600c
  1174784400d 1193533200c 1206838800d 1224982800c 1238288400d 1256432400c 1269738000d
  1288486800c 1301187600d 1319936400c 1332637200d 1351386000c 1364691600d 1382835600c
  1396141200d 1414285200c 1427590800d 1445734800c 1459040400d 1477789200c 1490490000d
  1509238800c 1521939600d 1540688400c 1553994000d 1572138000c 1585443600d 1603587600c
  1616893200d 1635642000c 1648342800d 1667091600c 1679792400d 1698541200c 1729990800b
  + 2025 3.5.0:3600c 10.5.0:3600b
America/Sitka
  LMT=53927 LMT=-32473 PST=-28800 PWT=-25200 PPT=-25200 PDT=-25200 YST=-32400 AKST=-32400
  AKDT=-28800
  @ -3225223727b -2188954727c -880207200d -769395600e -765385200c -21477600f -5756400c 9972000f
  25693200c 41421600f 57747600c 73476000f 89197200c 104925600f 120646800c 126698400f
  152096400c 162381600f 183546000c 199274400f 215600400c 230724000f 247050000c 262778400f
  278499600c 294228000f 309949200c 325677600f 341398800c 357127200f 372848400c 388576800f
  404902800c 420026400f 436352400g 439030800h 452084400i 467805600h 483534000i 499255200h
  514983600i 530704800h 544618800i 562154400h 576068400i 594208800h 607518000i 625658400h
  638967600i 657108000h 671022000i 688557600h 702471600i 720007200h 733921200i 752061600h
  765370800i 783511200h 796820400i 814960800h 828874800i 846410400h 860324400i 877860000h
  891774000i 909309600h 923223600i 941364000h 954673200i 972813600h 986122800i 1004263200h
  1018177200i 1035712800h 1049626800i 1067162400h 1081076400i 1099216800h 1112526000i
  1130666400h 1143975600i 1162116000h
  + 2007 3.2.0:39600i 11.1.0:36000h
America/St_Johns
  LMT=-12652 NST=-12652 NDT=-9052 NST=-12600 NDT=-9000 NWT=-9000 NPT=-9000 NDDT=-5400
  @ -2713897748b -1664130548c -1650137348b -1632076148c -1615145348b -1598650148c -1590100148b
  -1567286948c -1551565748b -1535837348c -1520116148b -1503782948c -1488666548b -1472333348c
  -1457216948b -1440883748c -1425767348b -1409434148c -1394317748b -1377984548c -1362263348b
  -1346534948c -1330813748b -1314480548c -1299364148b -1283030948c -1267914548b -1251581348c
  -1236464948b -1220131748c -1205015348b -1188682148c -1172960948b -1156627748c -1141511348b
  -1125178148c -1110061748b -1096921748d -1093728600e -1078612200d -1061670600e -1048973400d
  -1030221000e -1017523800d -998771400e -986074200d -966717000e -954624600d -935267400e
  -922570200d -903817800e -891120600d -872368200f -769395600g -765401400d -746044200e
  -733347000d -714594600e -701897400d -683145000e -670447800d -651695400e -638998200d
  -619641000e -606943800d -589401000e -576099000d -557951400e -544649400d -526501800e
  -513199800d -495052200e -481750200d -463602600e -450300600d -431548200e -418246200d
  -400098600e -386796600d -368649000e -355347000d -337199400e -323897400d -305749800e
  -289423800d -273695400e -257974200d -242245800e -226524600d -210796200e -195075000d
  -179346600e -163625400d -147897000e -131571000d -116447400e -100121400d -84393000e
  -68671800d -52943400e -37222200d -21493800e -5772600d 9955800e 25677000d 41405400e 57731400d
  73459800e 89181000d 104909400e 120630600d 136359000e 152080200d 167808600e 183529800d
  199258200e 215584200d 230707800e 247033800d 262762200e 278483400d 294211800e 309933000d
  325661400e 341382600d 357111000e 372832200d 388560600e 404886600d 420010200e 436336200d
  452064600e 467785800d 483514200e 499235400d 514963800e 530685000d 544591860e 562127460d
  576041460h 594178260d 607491060e 625631460d 638940660e 657081060d 670995060e 688530660d
  702444660e 719980260d 733894260e 752034660d 765343860e 783484260d 796793460e 814933860d
  828847860e 846383460d 860297460e 877833060d 891747060e 909282660d 923196660e 941337060d
  954646260e 972786660d 986095860e 1004236260d 1018150260e 1035685860d 1049599860e 1067135460d
  1081049460e 1099189860d 1112499060e 1130639460d 1143948660e 1162089060d 1173583860e
  1194143460d 1205033460e 1225593060d 1236483060e 1257042660d 1268537460e 1289097060d
  1299987060e 1320553800d
  + 2012 3.2.0:19800e 11.1.0:16200d
America/Swift_Current
  LMT=-25880 MST=-25200 MDT=-21600 MWT=-21600 MPT=-21600 CST=-21600
  @ -2030201320b -1632063600c -1615132800b -880210800d -769395600e -765388800b -747241200c
  -732729600b -715791600c -702489600b -684342000c -671040000b -652892400c -639590400b
  -400086000c -384364800b -337186800c -321465600b -305737200c -292435200b -273682800c
  -260985600b 73472400f
America/Tegucigalpa
  LMT=-20932 CST=-21600 CDT=-18000
  @ -1538503868b 547020000c 559717200b 578469600c 591166800b 1146981600c 1154926800b
America/Thule
  LMT=-16508 AST=-14400 ADT=-10800
  @ -1686079492b 670399200c 686120400b 701848800c 717570000b 733903200c 752043600b 765352800c
  783493200b 796802400c 814942800b 828856800c 846392400b 860306400c 877842000b 891756000c
  909291600b 923205600c 941346000b 954655200c 972795600b 986104800c 1004245200b 1018159200c
  1035694800b 1049608800c 1067144400b 1081058400c 1099198800b 1112508000c 1130648400b
  1143957600c 1162098000b
  + 2007 3.2.0:21600c 11.1.0:18000b
America/Tijuana
  LMT=-28084 MST=-25200 PST=-28800 PDT=-25200 PWT=-25200 PPT=-25200
  @ -1514739600b -1451667600c -1343145600b -1234803600c -1222963200d -1207242000c -873820800e
  -769395600f -761418000c -686073600d -661539600c -620755200d -608144400c -589384800d
  -576082800c -557935200d -544633200c -526489200d -513183600c -495039600d -481734000c
  -463590000d -450284400c -431535600d -418230000c -400086000d -386780400c -368636400d
  -355330800c -337186800d -323881200c -305737200d -292431600c -273682800d -260982000c
  -242233200d -226508400c -210783600d -195058800c -179334000d -163609200c -147884400d
  -131554800c -116434800d -100105200c -84376800d -68655600c -52927200d -37206000c -21477600d
  -5756400c 9972000d 25693200c 41421600d 57747600c 73476000d 89197200c 104925600d 120646800c
  126698400d 152096400c 162381600d 183546000c 199274400d 215600400c 230724000d 247050000c
  262778400d 278499600c 294228000d 309949200c 325677600d 341398800c 357127200d 372848400c
  388576800d 404902800c 420026400d 436352400c 452080800d 467802000c 483530400d 499251600c
  514980000d 530701200c 544615200d 562150800c 576064800d 594205200c 607514400d 625654800c
  638964000d 657104400c 671018400d 688554000c 702468000d 720003600c 733917600d 752058000c
  765367200d 783507600c 796816800d 814957200c 828871200d 846406800c 860320800d 877856400c
  891770400d 909306000c 923220000d 941360400c 954669600d 972810000c 986119200d 1004259600c
  1018173600d 1035709200c 1049623200d 1067158800c 1081072800d 1099213200c 1112522400d
  1130662800c 1143972000d 1162112400c 1175421600d 1193562000c 1207476000d 1225011600c
  1238925600d 1256461200c
  + 2010 3.2.0:36000d 11.1.0:32400c
America/Toronto
  LMT=-19052 EST=-18000 EDT=-14400 EWT=-14400 EPT=-14400
  @ -2366736148b -1632070800c -1615140000b -1601753400c -1583697600b -1567357200c -1554667200b
  -1534698000c -1524074400b -1503248400c -1492365600b -1471798800c -1460916000b -1440954000c
  -1428861600b -1409504400c -1397412000b -1378054800c -1365962400b -1346605200c -1333908000b
  -1315155600c -1301853600b -1283706000c -1270404000b -1252256400c -1238954400b -1220806800c
  -1207504800b -1188752400c -1176055200b -1157302800c -1144000800b -1125853200c -1112551200b
  -1094403600c -1081101600b -1062954000c -1049652000b -1031504400c -1018202400b -1000054800c
  -986752800b -968000400c -955303200b -936550800c -880218000d -769395600e -765396000b
  -747248400c -733946400b -715798800c -702496800b -684349200c -671047200b -652899600c
  -634154400b -620845200c -602704800b -589395600c -576093600b -557946000c -544644000b
  -526496400c -513194400b -495046800c -481744800b -463597200c -450295200b -431542800c
  -418240800b -400093200c -384372000b -368643600c -352922400b -337194000c -321472800b
  -305744400c -289418400b -273690000c -257968800b -242240400c -226519200b -210790800c
  -195069600b -179341200c -163620000b -147891600c -131565600b -116442000c -100116000b
  -84387600c -68666400b -52938000c -37216800b -21488400c -5767200b 9961200c 25682400b
  41410800c 57736800b 73465200c 89186400b 104914800c 120636000b 136364400c 152085600b
  167814000c 183535200b 199263600c 215589600b 230713200c 247039200b 262767600c 278488800b
  294217200c 309938400b 325666800c 341388000b 357116400c 372837600b 388566000c 404892000b
  420015600c 436341600b 452070000c 467791200b 483519600c 499240800b 514969200c 530690400b
  544604400c 562140000b 576054000c 594194400b 607503600c 625644000b 638953200c 657093600b
  671007600c 688543200b 702457200c 719992800b 733906800c 752047200b 765356400c 783496800b
  796806000c 814946400b 828860400c 846396000b 860310000c 877845600b 891759600c 909295200b
  923209200c 941349600b 954658800c 972799200b 986108400c 1004248800b 1018162800c 1035698400b
  1049612400c 1067148000b 1081062000c 1099202400b 1112511600c 1130652000b 1143961200c
  1162101600b
  + 2007 3.2.0:25200c 11.1.0:21600b
America/Vancouver
  LMT=-29548 PST=-28800 PDT=-25200 PWT=-25200 PPT=-25200
  @ -2713880852b -1632060000c -1615129200b -880207200d -769395600e -765385200b -747237600c
  -733935600b -715788000c -702486000b -684338400c -671036400b -652888800c -639586800b
  -620834400c -608137200b -589384800c -576082800b -557935200c -544633200b -526485600c
  -513183600b -495036000c -481734000b -463586400c -450284400b -431532000c -418230000b
  -400082400c -386780400b -368632800c -355330800b -337183200c -323881200b -305733600c
  -292431600b -273679200c -260982000b -242229600c -226508400b -210780000c -195058800b
  -179330400c -163609200b -147880800c -131554800b -116431200c -100105200b -84376800c
  -68655600b -52927200c -37206000b -21477600c -5756400b 9972000c 25693200b 41421600c 57747600b
  73476000c 89197200b 104925600c 120646800b 136375200c 152096400b 167824800c 183546000b
  199274400c 215600400b 230724000c 247050000b 262778400c 278499600b 294228000c 309949200b
  325677600c 341398800b 357127200c 372848400b 388576800c 404902800b 420026400c 436352400b
  452080800c 467802000b 483530400c 499251600b 514980000c 530701200b 544615200c 562150800b
  576064800c 594205200b 607514400c 625654800b 638964000c 657104400b 671018400c 688554000b
  702468000c 720003600b 733917600c 752058000b 765367200c 783507600b 796816800c 814957200b
  828871200c 846406800b 860320800c 877856400b 891770400c 909306000b 923220000c 941360400b
  954669600c 972810000b 986119200c 1004259600b 1018173600c 1035709200b 1049623200c 1067158800b
  1081072800c 1099213200b 1112522400c 1130662800b 1143972000c 1162112400b
  + 2007 3.2.0:36000c 11.1.0:32400b
America/Whitehorse
  LMT=-32412 YST=-32400 YDT=-28800 YWT=-28800 YPT=-28800 YDDT=-25200 PST=-28800 PDT=-25200
  MST=-25200
  @ -2188997988b -1632056400c -1615125600b -1596978000c -1583164800b -880203600d -769395600e
  -765381600b -147884400f -131554800b -121273200g 325677600h 341398800g 357127200h 372848400g
  388576800h 404902800g 420026400h 436352400g 452080800h 467802000g 483530400h 499251600g
  514980000h 530701200g 544615200h 562150800g 576064800h 594205200g 607514400h 625654800g
  638964000h 657104400g 671018400h 688554000g 702468000h 720003600g 733917600h 752058000g
  765367200h 783507600g 796816800h 814957200g 828871200h 846406800g 860320800h 877856400g
  891770400h 909306000g 923220000h 941360400g 954669600h 972810000g 986119200h 1004259600g
  1018173600h 1035709200g 1049623200h 1067158800g 1081072800h 1099213200g 1112522400h
  1130662800g 1143972000h 1162112400g 1173607200h 1194166800g 1205056800h 1225616400g
  1236506400h 1257066000g 1268560800h 1289120400g 1300010400h 1320570000g 1331460000h
  1352019600g 1362909600h 1383469200g 1394359200h 1414918800g 1425808800h 1446368400g
  1457863200h 1478422800g 1489312800h 1509872400g 1520762400h 1541322000g 1552212000h
  1572771600g 1583661600h 1604214000i
America/Winnipeg
  LMT=-23316 CST=-21600 CDT=-18000 CWT=-18000 CPT=-18000
  @ -2602258284b -1694368800c -1681671600b -1632067200c -1615136400b -1029686400c -1018198800b
  -880214400d -769395600e -765392400b -746035200c -732733200b -715795200c -702493200b
  -684345600c -671043600b -652896000c -639594000b -620755200c -607626000b -589392000c
  -576090000b -557942400c -544640400b -526492800c -513190800b -495043200c -481741200b
  -463593600c -450291600b -431539200c -418237200b -400089600c -386787600b -368640000c
  -355338000b -337190400c -321469200b -305740800c -292438800b -210787200c -198090000b
  -116438400c -100108800b -84384000c -68659200b -52934400c -37209600b -21484800c -5760000b
  9964800c 25689600b 41414400c 57744000b 73468800c 89193600b 104918400c 120643200b 136368000c
  152092800b 167817600c 183542400b 199267200c 215596800b 230716800c 247046400b 262771200c
  278496000b 294220800c 309945600b 325670400c 341395200b 357120000c 372844800b 388569600c
  404899200b 420019200c 436348800b 452073600c 467798400b 483523200c 499248000b 514972800c
  530697600b 544608000c 562147200b 576057600c 594201600b 607507200c 625651200b 638956800c
  657100800b 671011200c 688550400b 702460800c 720000000b 733910400c 752054400b 765360000c
  783504000b 796809600c 814953600b 828864000c 846403200b 860313600c 877852800b 891763200c
  909302400b 923212800c 941356800b 954662400c 972806400b 986112000c 1004256000b 1018166400c
  1035705600b 1049616000c 1067155200b 1081065600c 1099209600b 1112515200c 1130659200b
  1143964800c 1162105200b
  + 2007 3.2.0:28800c 11.1.0:25200b
America/Yakutat
  LMT=52865 LMT=-33535 YST=-32400 YWT=-28800 YPT=-28800 YDT=-28800 AKST=-32400 AKDT=-28800
  @ -3225223727b -2188953665c -880203600d -769395600e -765381600c -21474000f -5752800c 9975600f
  25696800c 41425200f 57751200c 73479600f 89200800c 104929200f 120650400c 126702000f
  152100000c 162385200f 183549600c 199278000f 215604000c 230727600f 247053600c 262782000f
  278503200c 294231600f 309952800c 325681200f 341402400c 357130800f 372852000c 388580400f
  404906400c 420030000f 436356000c 439030800g 452084400h 467805600g 483534000h 499255200g
  514983600h 530704800g 544618800h 562154400g 576068400h 594208800g 607518000h 625658400g
  638967600h 657108000g 671022000h 688557600g 702471600h 720007200g 733921200h 752061600g
  765370800h 783511200g 796820400h 814960800g 828874800h 846410400g 860324400h 877860000g
  891774000h 909309600g 923223600h 941364000g 954673200h 972813600g 986122800h 1004263200g
  1018177200h 1035712800g 1049626800h 1067162400g 1081076400h 1099216800g 1112526000h
  1130666400g 1143975600h 1162116000g
  + 2007 3.2.0:39600h 11.1.0:36000g
"

end DynamicContent.Calendar.ZoneTable
