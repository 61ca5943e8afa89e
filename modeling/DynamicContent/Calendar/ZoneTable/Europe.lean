/-
# Zones of Europe

The time zone data of Europe, in the form that `Zone.ofRow?` reads.
-/

namespace DynamicContent.Calendar.ZoneTable

/-- The zones of Europe. -/
def europe : String := "
Europe/Andorra
  LMT=364 WET=0 CET=3600 CEST=7200
  @ -2177453164b -733881600c 481078800d 496803600c 512528400d 528253200c 543978000d 559702800c
  575427600d 591152400c 606877200d 622602000c 638326800d 654656400c 670381200d 686106000c
  701830800d 717555600c 733280400d 749005200c 764730000d 780454800c 796179600d 811904400c
  + 1996 3.5.0:3600d 10.5.0:3600c
Europe/Astrakhan
  LMT=11532 +03=10800 +04=14400 +05=18000
  @ -1441249932b -1247540400c 354916800d 370724400c 386452800d 402260400c 417988800d 433796400c
  449611200d 465343200c 481068000d 496792800c 512517600d 528242400c 543967200d 559692000c
  575416800d 591141600c 622594800b 638319600c 654649200b 670374000c 717548400b 733273200c
  748998000b 764722800c 780447600b 796172400c 811897200b 828226800c 846370800b 859676400c
  877820400b 891126000c 909270000b 922575600c 941324400b 954025200c 972774000b 985474800c
  1004223600b 1017529200c 1035673200b 1048978800c 1067122800b 1080428400c 1099177200b
  1111878000c 1130626800b 1143327600c 1162076400b 1174777200c 1193526000b 1206831600c
  1224975600b 1238281200c 1256425200b 1269730800c 1288479600b 1301180400c 1414274400b
  1459033200c
Europe/Athens
  LMT=5692 AMT=5692 EET=7200 EEST=10800 CEST=7200 CET=3600
  @ -2344642492b -1686101632c -1182996000d -1178161200c -906861600d -904878000e -857257200f
  -844477200e -828237600f -812422800c -552362400d -541652400c 166485600d 186184800c 198028800d
  213753600c 228873600d 244080000c 260323200d 275446800c 291798000d 307407600c 323388000d
  338936400c 354675600d 370400400c 386125200d 401850000c 417574800d 433299600c 449024400d
  465354000c 481078800d 496803600c 512528400d 528253200c 543978000d 559702800c 575427600d
  591152400c 606877200d 622602000c 638326800d 654656400c 670381200d 686106000c 701830800d
  717555600c 733280400d 749005200c 764730000d 780454800c 796179600d 811904400c
  + 1996 3.5.0:3600d 10.5.0:3600c
Europe/Belgrade
  LMT=4920 CET=3600 CEST=7200
  @ -2713915320b -905824800c -857257200b -844556400c -828226800b -812502000c -796777200b
  -777942000c -766623600b 417574800c 433299600b 449024400c 465354000b 481078800c 496803600b
  512528400c 528253200b 543978000c 559702800b 575427600c 591152400b 606877200c 622602000b
  638326800c 654656400b 670381200c 686106000b 701830800c 717555600b 733280400c 749005200b
  764730000c 780454800b 796179600c 811904400b
  + 1996 3.5.0:3600c 10.5.0:3600b
Europe/Berlin
  LMT=3208 CET=3600 CEST=7200 CEMT=10800
  @ -2422054408b -1693706400c -1680483600b -1663455600c -1650150000b -1632006000c -1618700400b
  -938905200c -857257200b -844556400c -828226800b -812502000c -796777200b -781052400c
  -776563200d -765936000c -761180400b -748479600c -733273200b -717631200c -714610800d
  -710380800c -701910000b -684975600c -670460400b -654130800c -639010800b 323830800c
  338950800b 354675600c 370400400b 386125200c 401850000b 417574800c 433299600b 449024400c
  465354000b 481078800c 496803600b 512528400c 528253200b 543978000c 559702800b 575427600c
  591152400b 606877200c 622602000b 638326800c 654656400b 670381200c 686106000b 701830800c
  717555600b 733280400c 749005200b 764730000c 780454800b 796179600c 811904400b
  + 1996 3.5.0:3600c 10.5.0:3600b
Europe/Brussels
  LMT=1050 BMT=1050 WET=0 CET=3600 CEST=7200 WEST=3600
  @ -2840141850b -2450995200c -1740355200d -1693702800e -1680483600d -1663455600e -1650150000d
  -1632006000e -1618700400d -1613826000c -1604278800f -1585530000c -1574038800f -1552266000c
  -1539997200f -1520557200c -1507510800f -1490576400c -1473642000f -1459126800c -1444006800f
  -1427677200c -1411952400f -1396227600c -1379293200f -1364778000c -1348448400f -1333328400c
  -1316394000f -1301263200c -1284328800f -1269813600c -1253484000f -1238364000c -1221429600f
  -1206914400c -1191189600f -1175464800c -1160344800f -1143410400c -1127685600f -1111960800c
  -1096840800f -1080511200c -1063576800f -1049061600c -1033336800f -1017612000c -1002492000f
  -986162400c -969228000f -950479200c -942012000f -934668000e -857257200d -844556400e
  -828226800d -812502000e -798073200d -781052400e -766623600d -745455600e -733273200d
  228877200e 243997200d 260326800e 276051600d 291776400e 307501200d 323830800e 338950800d
  354675600e 370400400d 386125200e 401850000d 417574800e 433299600d 449024400e 465354000d
  481078800e 496803600d 512528400e 528253200d 543978000e 559702800d 575427600e 591152400d
  606877200e 622602000d 638326800e 654656400d 670381200e 686106000d 701830800e 717555600d
  733280400e 749005200d 764730000e 780454800d 796179600e 811904400d
  + 1996 3.5.0:3600e 10.5.0:3600d
Europe/Bucharest
  LMT=6264 BMT=6264 EET=7200 EEST=10800
  @ -2469404664b -1213148664c -1187056800d -1175479200c -1159754400d -1144029600c -1127700000d
  -1111975200c -1096250400d -1080525600c -1064800800d -1049076000c -1033351200d -1017626400c
  -1001901600d -986176800c -970452000d -954727200c 296604000d 307486800c 323816400d 338940000c
  354672000d 370396800c 386121600d 401846400c 417571200d 433296000c 449020800d 465350400c
  481075200d 496800000c 512524800d 528249600c 543974400d 559699200c 575424000d 591148800c
  606873600d 622598400c 638323200d 654652800c 670370400d 686095200c 701820000d 717544800c
  733269600d 748994400c 764719200d 780440400c 796168800d 811890000c 828223200d 846363600c
  + 1997 3.5.0:3600d 10.5.0:3600c
Europe/Budapest
  LMT=4580 CET=3600 CEST=7200
  @ -2498260580b -1693706400c -1680483600b -1663455600c -1650150000b -1632006000c -1618700400b
  -1600470000c -1587250800b -1569711600c -1555196400b -906775200c -857257200b -844556400c
  -828226800b -812502000c -796777200b -778471200c -762656400b -749689200c -733276800b
  -717634800c -701910000b -686185200c -670460400b -654130800c -639010800b -492656400c
  -481168800b -461199600c -449708400b -428540400c -418258800b -397090800c -386809200b
  323823600c 338943600b 354668400c 370393200b 386118000c 401842800b 417567600c 433292400b
  449024400c 465354000b 481078800c 496803600b 512528400c 528253200b 543978000c 559702800b
  575427600c 591152400b 606877200c 622602000b 638326800c 654656400b 670381200c 686106000b
  701830800c 717555600b 733280400c 749005200b 764730000c 780454800b 796179600c 811904400b
  + 1996 3.5.0:3600c 10.5.0:3600b
Europe/Chisinau
  LMT=6920 CMT=6900 BMT=6264 EET=7200 EEST=10800 CEST=7200 CET=3600 MSK=10800 MSD=14400
  @ -2840147720b -1637114100c -1213148664d -1187056800e -1175479200d -1159754400e -1144029600d
  -1127700000e -1111975200d -1096250400e -1080525600d -1064800800e -1049076000d -1033351200e
  -1017626400d -1001901600e -986176800d -970452000e -954727200d -927165600e -898138800f
  -857257200g -844556400f -828226800g -812502000f -800157600h 354920400i 370728000h 386456400i
  402264000h 417992400i 433800000h 449614800i 465346800h 481071600i 496796400h 512521200i
  528246000h 543970800i 559695600h 575420400i 591145200h 606870000i 622594800h 638319600i
  641944800e 654652800d 670377600e 686102400d 701820000e 717541200d 733269600e 748990800d
  764719200e 780440400d 796168800e 811890000d 828223200e 846363600d 859680000e 877824000d
  891129600e 909273600d 922579200e 941328000d 954028800e 972777600d 985478400e 1004227200d
  1017532800e 1035676800d 1048982400e 1067126400d 1080432000e 1099180800d 1111881600e
  1130630400d 1143331200e 1162080000d 1174780800e 1193529600d 1206835200e 1224979200d
  1238284800e 1256428800d 1269734400e 1288483200d 1301184000e 1319932800d 1332633600e
  1351382400d 1364688000e 1382832000d 1396137600e 1414281600d 1427587200e 1445731200d
  1459036800e 1477785600d 1490486400e 1509235200d 1521936000e 1540684800d 1553990400e
  1572134400d 1585440000e 1603584000d 1616889600e 1635638400d
  + 2022 3.5.0:3600e 10.5.0:3600d
Europe/Dublin
  LMT=-1521 DMT=-1521 IST=2079 GMT=0 BST=3600 IST=3600
  @ -2821649679b -1691962479c -1680471279d -1664143200e -1650146400d -1633903200e -1617487200d
  -1601848800e -1586037600d -1570399200e -1552168800d -1538344800e -1522533600d -1507500000f
  -1490565600d -1473631200f -1460930400d -1442786400f -1428876000d -1410732000f -1396216800d
  -1379282400f -1364767200d -1348437600f -1333317600d -1315778400f -1301263200d -1284328800f
  -1269813600d -1253484000f -1238364000d -1221429600f -1206914400d -1189980000f -1175464800d
  -1159135200f -1143410400d -1126476000f -1111960800d -1095631200f -1080511200d -1063576800f
  -1049061600d -1032127200f -1017612000d -1001282400f -986162400d -969228000f -950479200d
  -942012000f -733356000d -719445600f -699487200d -684972000f -668037600d -654732000f
  -636588000d -622072800f -605743200d -590623200f -574293600d -558568800f -542239200d
  -527119200f -512604000d -496274400f -481154400d -464220000f -449704800d -432165600f
  -417650400d -401320800f -386200800d -369266400f -354751200d -337816800f -323301600d
  -306972000f -291852000d -276732000f -257983200d -245282400f -226533600d -213228000f
  -195084000d -182383200f -163634400d -150933600f -132184800d -119484000f -100735200d
  -88034400f -68680800d -59004000f 57722400d 69818400f 89172000d 101268000f 120621600d
  132717600f 152071200d 164167200f 183520800d 196221600f 214970400d 227671200f 246420000d
  259120800f 278474400d 290570400f 309924000d 322020000f 341373600d 354675600f 372819600d
  386125200f 404269200d 417574800f 435718800d 449024400f 467773200d 481078800f 499222800d
  512528400f 530672400d 543978000f 562122000d 575427600f 593571600d 606877200f 625626000d
  638326800f 657075600d 670381200f 688525200d 701830800f 719974800d 733280400f 751424400d
  764730000f 782874000d 796179600f 814323600d
  + 1996 3.5.0:3600f 10.5.0:3600d
Europe/Gibraltar
  LMT=-1284 GMT=0 BST=3600 BDST=7200 CET=3600 CEST=7200
  @ -2821649916b -1691964000c -1680472800b -1664143200c -1650146400b -1633903200c -1617487200b
  -1601848800c -1586037600b -1570399200c -1552168800b -1538344800c -1522533600b -1507500000c
  -1490565600b -1473631200c -1460930400b -1442786400c -1428876000b -1410732000c -1396216800b
  -1379282400c -1364767200b -1348437600c -1333317600b -1315778400c -1301263200b -1284328800c
  -1269813600b -1253484000c -1238364000b -1221429600c -1206914400b -1189980000c -1175464800b
  -1159135200c -1143410400b -1126476000c -1111960800b -1095631200c -1080511200b -1063576800c
  -1049061600b -1032127200c -1017612000b -1001282400c -986162400b -969228000c -950479200b
  -942012000c -904518000d -896050800c -875487600d -864601200c -844038000d -832546800c
  -812588400d -798073200c -781052400d -772066800c -764805600b -748476000c -733356000b
  -719445600c -717030000d -706748400c -699487200b -687996000c -668037600b -654732000c
  -636588000b -622072800c -605743200b -590623200c -574293600b -558568800c -542239200b
  -527119200c -512604000b -496274400c -481154400b -464220000c -449704800b -432165600c
  -417650400b -401320800e 386125200f 401850000e 417574800f 433299600e 449024400f 465354000e
  481078800f 496803600e 512528400f 528253200e 543978000f 559702800e 575427600f 591152400e
  606877200f 622602000e 638326800f 654656400e 670381200f 686106000e 701830800f 717555600e
  733280400f 749005200e 764730000f 780454800e 796179600f 811904400e
  + 1996 3.5.0:3600f 10.5.0:3600e
Europe/Helsinki
  LMT=5989 HMT=5989 EET=7200 EEST=10800
  @ -2890258789b -1535938789c -875671200d -859773600c 354672000d 370396800c 386121600d
  401846400c 417574800d 433299600c 449024400d 465354000c 481078800d 496803600c 512528400d
  528253200c 543978000d 559702800c 575427600d 591152400c 606877200d 622602000c 638326800d
  654656400c 670381200d 686106000c 701830800d 717555600c 733280400d 749005200c 764730000d
  780454800c 796179600d 811904400c
  + 1996 3.5.0:3600d 10.5.0:3600c
Europe/Istanbul
  LMT=6952 IMT=7016 EET=7200 EEST=10800 +03=10800 +04=14400
  @ -2840147752b -1869875816c -1693706400d -1680490800c -1570413600d -1552186800c -1538359200d
  -1522551600c -1507514400d -1490583600c -1440208800d -1428030000c -1409709600d -1396494000c
  -931053600d -922676400c -917834400d -892436400c -875844000d -764737200c -744343200d
  -733806000c -716436000d -701924400c -684986400d -670474800c -654141600d -639025200c
  -622087200d -606970800c -590032800d -575521200c -235620000d -194842800c -177732000d
  -165726000c 107910000d 121215600c 133920000d 152665200c 164678400d 184114800c 196214400d
  215564400c 228873600d 245804400c 260323200d 267915600e 428454000f 433893600e 468111600c
  482799600d 496710000c 512521200d 528246000c 543970800d 559695600c 575420400d 591145200c
  606870000d 622594800c 638319600d 654649200c 670374000d 686098800c 701823600d 717548400c
  733273200d 748998000c 764118000d 780447600c 796172400d 811897200c 828226800d 846370800c
  859676400d 877820400c 891126000d 909270000c 922575600d 941324400c 954025200d 972774000c
  985474800d 1004223600c 1017529200d 1035673200c 1048978800d 1067122800c 1080428400d
  1099177200c 1111878000d 1130626800c 1143327600d 1162076400c 1174784400d 1193533200c
  1206838800d 1224982800c 1238288400d 1256432400c 1269738000d 1288486800c 1301274000d
  1319936400c 1332637200d 1351386000c 1364691600d 1382835600c 1396227600d 1414285200c
  1427590800d 1446944400c 1459040400d 1473195600e
Europe/Kaliningrad
  LMT=4920 CET=3600 CEST=7200 EET=7200 EEST=10800 MSK=10800 MSD=14400 +03=10800
  @ -2422056120b -1693706400c -1680483600b -1663455600c -1650150000b -1632006000c -1618700400b
  -938905200c -857257200b -844556400c -828226800b -812502000c -796777200b -781052400c
  -780372000d -778730400e -762663600d -749095200f 354920400g 370728000f 386456400g 402264000f
  417992400g 433800000f 449614800g 465346800f 481071600g 496796400f 512521200g 528246000f
  543970800g 559695600f 575420400g 591145200f 606870000e 622598400d 638323200e 654652800d
  670377600e 686102400d 701827200e 717552000d 733276800e 749001600d 764726400e 780451200d
  796176000e 811900800d 828230400e 846374400d 859680000e 877824000d 891129600e 909273600d
  922579200e 941328000d 954028800e 972777600d 985478400e 1004227200d 1017532800e 1035676800d
  1048982400e 1067126400d 1080432000e 1099180800d 1111881600e 1130630400d 1143331200e
  1162080000d 1174780800e 1193529600d 1206835200e 1224979200d 1238284800e 1256428800d
  1269734400e 1288483200d 1301184000h 1414278000d
Europe/Kirov
  LMT=11928 +03=10800 +04=14400 +05=18000 MSD=14400 MSK=10800 MSK=14400
  @ -1593820800b -1247540400c 354916800d 370724400c 386452800d 402260400c 417988800d 433796400c
  449611200d 465343200c 481068000d 496792800c 512517600d 528242400c 543967200d 559692000c
  575416800d 591141600c 606866400e 622594800f 638319600e 654649200f 670374000c 701820000e
  717548400f 733273200e 748998000f 764722800e 780447600f 796172400e 811897200f 828226800e
  846370800f 859676400e 877820400f 891126000e 909270000f 922575600e 941324400f 954025200e
  972774000f 985474800e 1004223600f 1017529200e 1035673200f 1048978800e 1067122800f
  1080428400e 1099177200f 1111878000e 1130626800f 1143327600e 1162076400f 1174777200e
  1193526000f 1206831600e 1224975600f 1238281200e 1256425200f 1269730800e 1288479600f
  1301180400g 1414274400f
Europe/Kyiv
  LMT=7324 KMT=7324 EET=7200 MSK=10800 CEST=7200 CET=3600 MSD=14400 EEST=10800
  @ -2840148124b -1441159324c -1247536800d -892522800e -857257200f -844556400e -828226800f
  -825382800d 354920400g 370728000d 386456400g 402264000d 417992400g 433800000d 449614800g
  465346800d 481071600g 496796400d 512521200g 528246000d 543970800g 559695600d 575420400g
  591145200d 606870000g 622594800d 638319600g 646783200h 686102400c 701827200h 717552000c
  733276800h 749001600c 764726400h 780451200c 796176000h 811900800c 828230400h 846378000c
  + 1997 3.5.0:3600h 10.5.0:3600c
Europe/Lisbon
  LMT=-2205 WET=0 WEST=3600 WEMT=7200 CET=3600 CEST=7200
  @ -1830384000b -1689555600c -1677801600b -1667433600c -1647738000b -1635897600c -1616202000b
  -1604361600c -1584666000b -1572739200c -1553043600b -1541203200c -1521507600b -1442451600c
  -1427677200b -1379293200c -1364778000b -1348448400c -1333328400b -1316394000c -1301274000b
  -1284339600c -1269824400b -1221440400c -1206925200b -1191200400c -1175475600b -1127696400c
  -1111971600b -1096851600c -1080522000b -1063587600c -1049072400b -1033347600c -1017622800b
  -1002502800c -986173200b -969238800c -950490000b -942022800c -922496400b -906944400c
  -891133200b -877309200c -873684000d -864007200c -857955600b -845859600c -842839200d
  -831348000c -825901200b -814410000c -810784800d -799898400c -794451600b -782960400c
  -779335200d -768448800c -763002000b -749091600c -733366800b -717631200c -701906400b
  -686181600c -670456800b -654732000c -639007200b -623282400c -607557600b -591832800c
  -575503200b -559778400c -544053600b -528328800c -512604000b -496879200c -481154400b
  -465429600c -449704800b -433980000c -417650400b -401925600c -386200800b -370476000c
  -354751200b -339026400c -323301600b -307576800c -291852000b -276127200c -260402400b
  -244677600c -228348000b -212623200c -196898400b -181173600c -165448800b -149724000c
  -133999200b -118274400c -102549600e 212544000b 228268800c 243993600b 260326800c 276051600b
  291776400c 307501200b 323830800c 338950800b 354672000c 370396800b 386121600c 401846400b
  417571200c 433296000b 449020800c 465350400b 481075200c 496800000b 512528400c 528253200b
  543978000c 559702800b 575427600c 591152400b 606877200c 622602000b 638326800c 654656400b
  670381200c 686106000b 701830800c 717555600e 733280400f 749005200e 764730000f 780454800e
  796179600f 811904400e
  + 1996 3.5.0:3600c 10.5.0:3600b
Europe/London
  LMT=-75 GMT=0 BST=3600 BDST=7200
  @ -3852662325b -1691964000c -1680472800b -1664143200c -1650146400b -1633903200c -1617487200b
  -1601848800c -1586037600b -1570399200c -1552168800b -1538344800c -1522533600b -1507500000c
  -1490565600b -1473631200c -1460930400b -1442786400c -1428876000b -1410732000c -1396216800b
  -1379282400c -1364767200b -1348437600c -1333317600b -1315778400c -1301263200b -1284328800c
  -1269813600b -1253484000c -1238364000b -1221429600c -1206914400b -1189980000c -1175464800b
  -1159135200c -1143410400b -1126476000c -1111960800b -1095631200c -1080511200b -1063576800c
  -1049061600b -1032127200c -1017612000b -1001282400c -986162400b -969228000c -950479200b
  -942012000c -904518000d -896050800c -875487600d -864601200c -844038000d -832546800c
  -812588400d -798073200c -781052400d -772066800c -764805600b -748476000c -733356000b
  -719445600c -717030000d -706748400c -699487200b -687996000c -668037600b -654732000c
  -636588000b -622072800c -605743200b -590623200c -574293600b -558568800c -542239200b
  -527119200c -512604000b -496274400c -481154400b -464220000c -449704800b -432165600c
  -417650400b -401320800c -386200800b -369266400c -354751200b -337816800c -323301600b
  -306972000c -291852000b -276732000c -257983200b -245282400c -226533600b -213228000c
  -195084000b -182383200c -163634400b -150933600c -132184800b -119484000c -100735200b
  -88034400c -68680800b -59004000c 57722400b 69818400c 89172000b 101268000c 120621600b
  132717600c 152071200b 164167200c 183520800b 196221600c 214970400b 227671200c 246420000b
  259120800c 278474400b 290570400c 309924000b 322020000c 341373600b 354675600c 372819600b
  386125200c 404269200b 417574800c 435718800b 449024400c 467773200b 481078800c 499222800b
  512528400c 530672400b 543978000c 562122000b 575427600c 593571600b 606877200c 625626000b
  638326800c 657075600b 670381200c 688525200b 701830800c 719974800b 733280400c 751424400b
  764730000c 782874000b 796179600c 814323600b
  + 1996 3.5.0:3600c 10.5.0:3600b
Europe/Madrid
  LMT=-884 WET=0 WEST=3600 WEMT=7200 CET=3600 CEST=7200
  @ -2177452800b -1631926800c -1616889600b -1601168400c -1585353600b -1442451600c -1427673600b
  -1379293200c -1364774400b -1348448400c -1333324800b -1316390400c -1301270400b -1284339600c
  -1269820800b -1026954000c -1017619200b -1001898000c -999482400d -986090400c -954115200b
  -940208400e -873079200f -862621200e -842839200f -828320400e -811389600f -796870800e
  -779940000f -765421200e -748490400f -733971600e -652327200f -639018000e 135122400f
  150246000e 166572000f 181695600e 196812000f 212540400e 228866400f 243990000e 260326800f
  276051600e 291776400f 307501200e 323830800f 338950800e 354675600f 370400400e 386125200f
  401850000e 417574800f 433299600e 449024400f 465354000e 481078800f 496803600e 512528400f
  528253200e 543978000f 559702800e 575427600f 591152400e 606877200f 622602000e 638326800f
  654656400e 670381200f 686106000e 701830800f 717555600e 733280400f 749005200e 764730000f
  780454800e 796179600f 811904400e
  + 1996 3.5.0:3600f 10.5.0:3600e
Europe/Malta
  LMT=3484 CET=3600 CEST=7200
  @ -2403478684b -1690765200c -1680487200b -1664758800c -1648951200b -1635123600c -1616896800b
  -1604278800c -1585533600b -1571014800c -1555293600b -932432400c -857257200b -844556400c
  -828226800b -812588400c -798073200b -781052400c -766717200b -750898800c -733359600b
  -719456400c -701917200b -689209200c -670460400b -114051600c -103168800b -81997200c
  -71715600b -50547600c -40266000b -18493200c -8211600b 12956400c 23238000b 43801200c
  54687600b 75855600c 86742000b 102380400c 118105200b 135730800c 148518000b 167187600c
  180489600b 198637200c 211939200b 230086800c 243388800b 261536400c 274838400b 292986000c
  306288000b 323312400c 338342400b 354675600c 370400400b 386125200c 401850000b 417574800c
  433299600b 449024400c 465354000b 481078800c 496803600b 512528400c 528253200b 543978000c
  559702800b 575427600c 591152400b 606877200c 622602000b 638326800c 654656400b 670381200c
  686106000b 701830800c 717555600b 733280400c 749005200b 764730000c 780454800b 796179600c
  811904400b
  + 1996 3.5.0:3600c 10.5.0:3600b
Europe/Minsk
  LMT=6616 MMT=6600 EET=7200 MSK=10800 CEST=7200 CET=3600 MSD=14400 EEST=10800 +03=10800
  @ -2840147416b -1441158600c -1247536800d -899780400e -857257200f -844556400e -828226800f
  -812502000e -804650400d 354920400g 370728000d 386456400g 402264000d 417992400g 433800000d
  449614800g 465346800d 481071600g 496796400d 512521200g 528246000d 543970800g 559695600d
  575420400g 591145200d 606870000g 622594800d 670374000h 686102400c 701827200h 717552000c
  733276800h 749001600c 764726400h 780451200c 796176000h 811900800c 828230400h 846374400c
  859680000h 877824000c 891129600h 909273600c 922579200h 941328000c 954028800h 972777600c
  985478400h 1004227200c 1017532800h 1035676800c 1048982400h 1067126400c 1080432000h
  1099180800c 1111881600h 1130630400c 1143331200h 1162080000c 1174780800h 1193529600c
  1206835200h 1224979200c 1238284800h 1256428800c 1269734400h 1288483200c 1301184000i
Europe/Moscow
  LMT=9017 MMT=9017 MMT=9079 MST=12679 MDST=16279 MSD=14400 MSK=10800 +05=18000 EET=7200
  EEST=10800 MSK=14400
  @ -2840149817b -1688265017c -1656819079d -1641353479c -1627965079e -1618716679d -1596429079e
  -1593820800f -1589860800g -1542427200f -1539493200h -1525323600f -1522728000g -1491188400i
  -1247536800g 354920400f 370728000g 386456400f 402264000g 417992400f 433800000g 449614800f
  465346800g 481071600f 496796400g 512521200f 528246000g 543970800f 559695600g 575420400f
  591145200g 606870000f 622594800g 638319600f 654649200g 670374000j 686102400i 695779200g
  701823600f 717548400g 733273200f 748998000g 764722800f 780447600g 796172400f 811897200g
  828226800f 846370800g 859676400f 877820400g 891126000f 909270000g 922575600f 941324400g
  954025200f 972774000g 985474800f 1004223600g 1017529200f 1035673200g 1048978800f 1067122800g
  1080428400f 1099177200g 1111878000f 1130626800g 1143327600f 1162076400g 1174777200f
  1193526000g 1206831600f 1224975600g 1238281200f 1256425200g 1269730800f 1288479600g
  1301180400k 1414274400g
Europe/Paris
  LMT=561 PMT=561 WET=0 WEST=3600 CEST=7200 CET=3600 WEMT=7200
  @ -2486592561b -1855958961c -1689814800d -1680397200c -1665363600d -1648342800c -1635123600d
  -1616893200c -1604278800d -1585443600c -1574038800d -1552266000c -1539997200d -1520557200c
  -1507510800d -1490576400c -1470618000d -1459126800c -1444006800d -1427677200c -1411952400d
  -1396227600c -1379293200d -1364778000c -1348448400d -1333328400c -1316394000d -1301274000c
  -1284339600d -1269824400c -1253494800d -1238374800c -1221440400d -1206925200c -1191200400d
  -1175475600c -1160355600d -1143421200c -1127696400d -1111971600c -1096851600d -1080522000c
  -1063587600d -1049072400c -1033347600d -1017622800c -1002502800d -986173200c -969238800d
  -950490000c -942012000d -932436000e -857257200f -844556400e -828226800f -812502000e
  -800071200g -796266000d -781052400g -766623600f 196819200e 212540400f 228877200e 243997200f
  260326800e 276051600f 291776400e 307501200f 323830800e 338950800f 354675600e 370400400f
  386125200e 401850000f 417574800e 433299600f 449024400e 465354000f 481078800e 496803600f
  512528400e 528253200f 543978000e 559702800f 575427600e 591152400f 606877200e 622602000f
  638326800e 654656400f 670381200e 686106000f 701830800e 717555600f 733280400e 749005200f
  764730000e 780454800f 796179600e 811904400f
  + 1996 3.5.0:3600e 10.5.0:3600f
Europe/Prague
  LMT=3464 PMT=3464 CET=3600 CEST=7200 GMT=0
  @ -3786829064b -2469401864c -1693706400d -1680483600c -1663455600d -1650150000c -1632006000d
  -1618700400c -938905200d -857257200c -844556400d -828226800c -812502000d -796777200c
  -781052400d -765327600c -746578800d -733359600c -728517600e -721260000c -716425200d
  -701910000c -684975600d -670460400c -654217200d -639010800c 291776400d 307501200c 323830800d
  338950800c 354675600d 370400400c 386125200d 401850000c 417574800d 433299600c 449024400d
  465354000c 481078800d 496803600c 512528400d 528253200c 543978000d 559702800c 575427600d
  591152400c 606877200d 622602000c 638326800d 654656400c 670381200d 686106000c 701830800d
  717555600c 733280400d 749005200c 764730000d 780454800c 796179600d 811904400c
  + 1996 3.5.0:3600d 10.5.0:3600c
Europe/Riga
  LMT=5794 RMT=5794 LST=9394 EET=7200 MSK=10800 CEST=7200 CET=3600 MSD=14400 EEST=10800
  @ -2840146594b -1632008194c -1618702594b -1601681794c -1597275394b -1377308194d -928029600e
  -899521200f -857257200g -844556400f -828226800g -812502000f -796777200g -795834000e
  354920400h 370728000e 386456400h 402264000e 417992400h 433800000e 449614800h 465346800e
  481071600h 496796400e 512521200h 528246000e 543970800h 559695600e 575420400h 591145200e
  606870000i 622598400d 638323200i 654652800d 670377600i 686102400d 701827200i 717552000d
  733276800i 749001600d 764726400i 780451200d 796176000i 811900800d 828230400i 843955200d
  859683600i 877827600d 891133200i 909277200d 922582800i 941331600d
  + 2001 3.5.0:3600i 10.5.0:3600d
Europe/Rome
  LMT=2996 RMT=2996 CET=3600 CEST=7200
  @ -3252098996b -2403565200c -1690765200d -1680487200c -1664758800d -1648951200c -1635123600d
  -1616896800c -1604278800d -1585533600c -1571014800d -1555293600c -932432400d -857257200c
  -844556400d -828226800c -812502000d -798073200c -781052400d -766717200c -750898800d
  -733359600c -719456400d -701917200c -689209200d -670460400c -114051600d -103168800c
  -81997200d -71715600c -50547600d -40266000c -18493200d -8211600c 12956400d 23238000c
  43801200d 54687600c 75855600d 86742000c 107910000d 118191600c 138754800d 149641200c
  170809200d 181090800c 202258800d 212540400c 233103600d 243990000c 265158000d 276044400c
  296607600d 307494000c 323830800d 338950800c 354675600d 370400400c 386125200d 401850000c
  417574800d 433299600c 449024400d 465354000c 481078800d 496803600c 512528400d 528253200c
  543978000d 559702800c 575427600d 591152400c 606877200d 622602000c 638326800d 654656400c
  670381200d 686106000c 701830800d 717555600c 733280400d 749005200c 764730000d 780454800c
  796179600d 811904400c
  + 1996 3.5.0:3600d 10.5.0:3600c
Europe/Samara
  LMT=12020 +03=10800 +04=14400 +05=18000
  @ -1593820800b -1247540400c 354916800d 370724400c 386452800d 402260400c 417988800d 433796400c
  449611200d 465343200c 481068000d 496792800c 512517600d 528242400c 543967200d 559692000c
  575416800d 591141600c 622594800b 638319600c 654649200b 687916800c 701820000d 717544800c
  733269600d 748994400c 764719200d 780444000c 796168800d 811893600c 828223200d 846367200c
  859672800d 877816800c 891122400d 909266400c 922572000d 941320800c 954021600d 972770400c
  985471200d 1004220000c 1017525600d 1035669600c 1048975200d 1067119200c 1080424800d
  1099173600c 1111874400d 1130623200c 1143324000d 1162072800c 1174773600d 1193522400c
  1206828000d 1224972000c 1238277600d 1256421600c 1288479600b 1301180400c
Europe/Saratov
  LMT=11058 +03=10800 +04=14400 +05=18000
  @ -1593820800b -1247540400c 354916800d 370724400c 386452800d 402260400c 417988800d 433796400c
  449611200d 465343200c 481068000d 496792800c 512517600d 528242400c 543967200d 559692000c
  591145200b 606870000c 622594800b 638319600c 654649200b 670374000c 717548400b 733273200c
  748998000b 764722800c 780447600b 796172400c 811897200b 828226800c 846370800b 859676400c
  877820400b 891126000c 909270000b 922575600c 941324400b 954025200c 972774000b 985474800c
  1004223600b 1017529200c 1035673200b 1048978800c 1067122800b 1080428400c 1099177200b
  1111878000c 1130626800b 1143327600c 1162076400b 1174777200c 1193526000b 1206831600c
  1224975600b 1238281200c 1256425200b 1269730800c 1288479600b 1301180400c 1414274400b
  1480806000c
Europe/Simferopol
  LMT=8184 SMT=8160 EET=7200 MSK=10800 CEST=7200 CET=3600 MSD=14400 EEST=10800 MSK=14400
  @ -2840148984b -1441160160c -1247536800d -888894000e -857257200f -844556400e -828226800f
  -812502000e -811648800d 354920400g 370728000d 386456400g 402264000d 417992400g 433800000d
  449614800g 465346800d 481071600g 496796400d 512521200g 528246000d 543970800g 559695600d
  575420400g 591145200d 606870000g 622594800d 646786800c 701827200h 717552000c 733276800h
  749001600c 764726400h 767739600g 780447600d 796172400g 811897200d 828219600g 846374400d
  859683600h 877827600c 891133200h 909277200c 922582800h 941331600c 954032400h 972781200c
  985482000h 1004230800c 1017536400h 1035680400c 1048986000h 1067130000c 1080435600h
  1099184400c 1111885200h 1130634000c 1143334800h 1162083600c 1174784400h 1193533200c
  1206838800h 1224982800c 1238288400h 1256432400c 1269738000h 1288486800c 1301187600h
  1319936400c 1332637200h 1351386000c 1364691600h 1382835600c 1396137600i 1414274400d
Europe/Sofia
  LMT=5596 IMT=7016 EET=7200 CET=3600 CEST=7200 EEST=10800
  @ -2840146396b -2369527016c -857257200d -844556400e -828226800d -812502000e -796777200d
  -781048800c 291762000f 307576800c 323816400f 339026400c 355266000f 370393200c 386715600f
  401846400c 417571200f 433296000c 449020800f 465350400c 481075200f 496800000c 512524800f
  528249600c 543974400f 559699200c 575424000f 591148800c 606873600f 622598400c 638323200f
  654652800c 670370400f 686091600c 701820000f 717541200c 733269600f 748990800c 764719200f
  780440400c 796168800f 811890000c 828223200f 846363600c
  + 1997 3.5.0:3600f 10.5.0:3600c
Europe/Tallinn
  LMT=5940 TMT=5940 CET=3600 CEST=7200 EET=7200 MSK=10800 MSD=14400 EEST=10800
  @ -2840146740b -1638322740c -1632006000d -1618700400c -1593824400b -1535938740e -927943200f
  -892954800d -857257200c -844556400d -828226800c -812502000d -797652000f 354920400g
  370728000f 386456400g 402264000f 417992400g 433800000f 449614800g 465346800f 481071600g
  496796400f 512521200g 528246000f 543970800g 559695600f 575420400g 591145200f 606870000h
  622598400e 638323200h 654652800e 670377600h 686102400e 701827200h 717552000e 733276800h
  749001600e 764726400h 780451200e 796176000h 811900800e 828230400h 846374400e 859680000h
  877824000e 891129600h 909277200e 922582800h 941331600e
  + 2002 3.5.0:3600h 10.5.0:3600e
Europe/Tirane
  LMT=4760 CET=3600 CEST=7200
  @ -1767230360b -932346000c -857257200b -844556400c -843519600b 136854000c 149896800b
  168130800c 181432800b 199839600c 213141600b 231894000c 244591200b 263257200c 276040800b
  294706800c 307490400b 326156400c 339458400b 357087600c 370389600b 389142000c 402444000b
  419468400c 433807200b 449622000c 465354000b 481078800c 496803600b 512528400c 528253200b
  543978000c 559702800b 575427600c 591152400b 606877200c 622602000b 638326800c 654656400b
  670381200c 686106000b 701830800c 717555600b 733280400c 749005200b 764730000c 780454800b
  796179600c 811904400b
  + 1996 3.5.0:3600c 10.5.0:3600b
Europe/Ulyanovsk
  LMT=11616 +03=10800 +04=14400 +05=18000 +02=7200
  @ -1593820800b -1247540400c 354916800d 370724400c 386452800d 402260400c 417988800d 433796400c
  449611200d 465343200c 481068000d 496792800c 512517600d 528242400c 543967200d 559692000c
  575416800d 591141600c 622594800b 638319600c 654649200b 686102400e 695779200b 701823600c
  717548400b 733273200c 748998000b 764722800c 780447600b 796172400c 811897200b 828226800c
  846370800b 859676400c 877820400b 891126000c 909270000b 922575600c 941324400b 954025200c
  972774000b 985474800c 1004223600b 1017529200c 1035673200b 1048978800c 1067122800b
  1080428400c 1099177200b 1111878000c 1130626800b 1143327600c 1162076400b 1174777200c
  1193526000b 1206831600c 1224975600b 1238281200c 1256425200b 1269730800c 1288479600b
  1301180400c 1414274400b 1459033200c
Europe/Vienna
  LMT=3921 CET=3600 CEST=7200
  @ -2422055121b -1693706400c -1680483600b -1663455600c -1650150000b -1632006000c -1618700400b
  -1569711600c -1555801200b -938905200c -857257200b -844556400c -828226800b -812502000c
  -796777200b -781052400c -780188400b -748479600c -733273200b -717634800c -701910000b
  -684975600c -670460400b 323823600c 338940000b 354675600c 370400400b 386125200c 401850000b
  417574800c 433299600b 449024400c 465354000b 481078800c 496803600b 512528400c 528253200b
  543978000c 559702800b 575427600c 591152400b 606877200c 622602000b 638326800c 654656400b
  670381200c 686106000b 701830800c 717555600b 733280400c 749005200b 764730000c 780454800b
  796179600c 811904400b
  + 1996 3.5.0:3600c 10.5.0:3600b
Europe/Vilnius
  LMT=6076 WMT=5040 KMT=5736 CET=3600 EET=7200 MSK=10800 CEST=7200 MSD=14400 EEST=10800
  @ -2840146876b -1672536240c -1585100136d -1561251600e -1553565600d -928198800f -900126000g
  -857257200d -844556400g -828226800d -812502000g -802144800f 354920400h 370728000f 386456400h
  402264000f 417992400h 433800000f 449614800h 465346800f 481071600h 496796400f 512521200h
  528246000f 543970800h 559695600f 575420400h 591145200f 606870000i 622598400e 638323200i
  654652800e 670377600i 686102400e 701827200i 717552000e 733276800i 749001600e 764726400i
  780451200e 796176000i 811900800e 828230400i 846374400e 859680000i 877824000e 891133200g
  909277200d 922582800g 941331600e
  + 2003 3.5.0:3600i 10.5.0:3600e
Europe/Volgograd
  LMT=10660 +03=10800 +04=14400 +05=18000 MSD=14400 MSK=10800 MSK=14400
  @ -1577761060b -1247540400c 354916800d 370724400c 386452800d 402260400c 417988800d 433796400c
  449611200d 465343200c 481068000d 496792800c 512517600d 528242400c 543967200d 559692000c
  575416800e 591145200f 606870000e 622594800f 638319600e 654649200f 670374000c 701820000e
  717548400f 733273200e 748998000f 764722800e 780447600f 796172400e 811897200f 828226800e
  846370800f 859676400e 877820400f 891126000e 909270000f 922575600e 941324400f 954025200e
  972774000f 985474800e 1004223600f 1017529200e 1035673200f 1048978800e 1067122800f
  1080428400e 1099177200f 1111878000e 1130626800f 1143327600e 1162076400f 1174777200e
  1193526000f 1206831600e 1224975600f 1238281200e 1256425200f 1269730800e 1288479600f
  1301180400g 1414274400f 1540681200c 1609020000f
Europe/Warsaw
  LMT=5040 WMT=5040 CET=3600 CEST=7200 EET=7200 EEST=10800
  @ -2840145840b -1717032240c -1693706400d -1680483600c -1663455600d -1650150000c -1632006000d
  -1618700400e -1600473600f -1587168000e -1501725600c -931734000d -857257200c -844556400d
  -828226800c -812502000d -796608000c -778726800d -762660000c -748486800d -733273200c
  -715215600d -701910000c -684975600d -670460400c -654130800d -639010800c -397094400d
  -386812800c -371088000d -355363200c -334195200d -323308800c -307584000d -291859200c
  -271296000d -260409600c -239846400d -228960000c -208396800d -197510400c -176342400d
  -166060800c 228873600d 243993600c 260323200d 276048000c 291772800d 307497600c 323827200d
  338947200c 354672000d 370396800c 386121600d 401846400c 417571200d 433296000c 449020800d
  465350400c 481075200d 496800000c 512524800d 528249600c 543974400d 559699200c 575427600d
  591152400c 606877200d 622602000c 638326800d 654656400c 670381200d 686106000c 701830800d
  717555600c 733280400d 749005200c 764730000d 780454800c 796179600d 811904400c
  + 1996 3.5.0:3600d 10.5.0:3600c
Europe/Zurich
  LMT=2048 BMT=1786 CET=3600 CEST=7200
  @ -3675198848b -2385246586c -904435200d -891129600c -872985600d -859680000c 354675600d
  370400400c 386125200d 401850000c 417574800d 433299600c 449024400d 465354000c 481078800d
  496803600c 512528400d 528253200c 543978000d 559702800c 575427600d 591152400c 606877200d
  622602000c 638326800d 654656400c 670381200d 686106000c 701830800d 717555600c 733280400d
  749005200c 764730000d 780454800c 796179600d 811904400c
  + 1996 3.5.0:3600d 10.5.0:3600c
"

end DynamicContent.Calendar.ZoneTable
