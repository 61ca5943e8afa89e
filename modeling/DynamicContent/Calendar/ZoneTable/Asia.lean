/-
# Zones of Asia

The time zone data of Asia, in the form that `Zone.ofRow?` reads.
-/

namespace DynamicContent.Calendar.ZoneTable

/-- The zones of Asia. -/
def asia : String := "
Asia/Almaty
  LMT=18468 +05=18000 +06=21600 +07=25200
  @ -1441170468b -1247547600c 354909600d 370717200c 386445600d 402253200c 417981600d 433789200c
  449604000d 465336000c 481060800d 496785600c 512510400d 528235200c 543960000d 559684800c
  575409600d 591134400c 606859200d 622584000c 638308800d 654638400c 686091600b 695768400c
  701812800d 717537600c 733262400d 748987200c 764712000d 780436800c 796161600d 811886400c
  828216000d 846360000c 859665600d 877809600c 891115200d 909259200c 922564800d 941313600c
  954014400d 972763200c 985464000d 1004212800c 1017518400d 1035662400c 1048968000d 1067112000c
  1080417600d 1099166400c 1709229600b
Asia/Amman
  LMT=8624 EET=7200 EEST=10800 +03=10800
  @ -1230776624b 108165600c 118270800b 136591200c 149806800b 168127200c 181342800b 199749600c
  215643600b 231285600c 244501200b 262735200c 275950800b 481154400c 496962000b 512949600c
  528670800b 544399200c 560120400b 575848800c 592174800b 610581600c 623624400b 641167200c
  655074000b 671839200c 685918800b 702856800c 717973200b 733701600c 749422800b 765151200c
  779662800b 797205600c 811116000b 828655200c 843170400b 860104800c 874620000b 891554400c
  906069600b 930780000c 938124000b 954367200c 970178400b 985816800c 1001628000b 1017352800c
  1033077600b 1048802400c 1066946400b 1080252000c 1097791200b 1112306400c 1128031200b
  1143756000c 1161900000b 1175205600c 1193349600b 1206655200c 1225404000b 1238104800c
  1256853600b 1269554400c 1288303200b 1301608800c 1319752800b 1333058400c 1387486800b
  1395957600c 1414706400b 1427407200c 1446156000b 1459461600c 1477605600b 1490911200c
  1509055200b 1522360800c 1540504800b 1553810400c 1571954400b 1585260000c 1604008800b
  1616709600c 1635458400b 1645740000c 1666908000d
Asia/Anadyr
  LMT=42596 +12=43200 +13=46800 +14=50400 +11=39600
  @ -1441194596b -1247572800c 354884400d 370692000c 402231600b 417960000c 433767600b 449582400c
  465314400b 481039200c 496764000b 512488800c 528213600b 543938400c 559663200b 575388000c
  591112800b 606837600c 622562400b 638287200c 654616800b 686070000e 695746800b 701791200c
  717516000b 733240800c 748965600b 764690400c 780415200b 796140000c 811864800b 828194400c
  846338400b 859644000c 877788000b 891093600c 909237600b 922543200c 941292000b 953992800c
  972741600b 985442400c 1004191200b 1017496800c 1035640800b 1048946400c 1067090400b
  1080396000c 1099144800b 1111845600c 1130594400b 1143295200c 1162044000b 1174744800c
  1193493600b 1206799200c 1224943200b 1238248800c 1256392800b 1288450800e 1301151600b
Asia/Aqtau
  LMT=12064 +04=14400 +05=18000 +06=21600
  @ -1441164064b -1247544000c 370724400d 402256800c 417985200d 433792800c 449607600d 465339600c
  481064400d 496789200c 512514000d 528238800c 543963600d 559688400c 575413200d 591138000c
  606862800d 622587600c 638312400d 654642000c 686095200b 695772000c 701816400d 717541200c
  733266000d 748990800c 764715600d 780440400b 796168800c 811893600b 828223200c 846367200b
  859672800c 877816800b 891122400c 909266400b 922572000c 941320800b 954021600c 972770400b
  985471200c 1004220000b 1017525600c 1035669600b 1048975200c 1067119200b 1080424800c
Asia/Aqtobe
  LMT=13720 +04=14400 +05=18000 +06=21600
  @ -1441165720b -1247544000c 354913200d 402256800c 417985200d 433792800c 449607600d 465339600c
  481064400d 496789200c 512514000d 528238800c 543963600d 559688400c 575413200d 591138000c
  606862800d 622587600c 638312400d 654642000c 686095200b 695772000c 701816400d 717541200c
  733266000d 748990800c 764715600d 780440400c 796165200d 811890000c 828219600d 846363600c
  859669200d 877813200c 891118800d 909262800c 922568400d 941317200c 954018000d 972766800c
  985467600d 1004216400c 1017522000d 1035666000c 1048971600d 1067115600c 1080421200d
  1099170000c
Asia/Ashgabat
  LMT=14012 +04=14400 +05=18000 +06=21600
  @ -1441166012b -1247544000c 354913200d 370720800c 386449200d 402256800c 417985200d 433792800c
  449607600d 465339600c 481064400d 496789200c 512514000d 528238800c 543963600d 559688400c
  575413200d 591138000c 606862800d 622587600c 638312400d 654642000c 686095200b 695772000c
Asia/Atyrau
  LMT=12464 +03=10800 +05=18000 +06=21600 +04=14400
  @ -1441164464b -1247540400c 370724400d 402256800c 417985200d 433792800c 449607600d 465339600c
  481064400d 496789200c 512514000d 528238800c 543963600d 559688400c 575413200d 591138000c
  606862800d 622587600c 638312400d 654642000c 686095200e 695772000c 701816400d 717541200c
  733266000d 748990800c 764715600d 780440400c 796165200d 811890000c 828219600d 846363600c
  859669200d 877813200c 891118800d 909262800c 941320800e 954021600c 972770400e 985471200c
  1004220000e 1017525600c 1035669600e 1048975200c 1067119200e 1080424800c
Asia/Baghdad
  LMT=10660 BMT=10656 +03=10800 +04=14400
  @ -2524532260b -1641005856c 389048400d 402264000c 417906000d 433800000c 449614800d 465422400c
  481150800d 496792800c 512517600d 528242400c 543967200d 559692000c 575416800d 591141600c
  606866400d 622591200c 638316000d 654645600c 670464000d 686275200c 702086400d 717897600c
  733622400d 749433600c 765158400d 780969600c 796694400d 812505600c 828316800d 844128000c
  859852800d 875664000c 891388800d 907200000c 922924800d 938736000c 954547200d 970358400c
  986083200d 1001894400c 1017619200d 1033430400c 1049155200d 1064966400c 1080777600d
  1096588800c 1112313600d 1128124800c 1143849600d 1159660800c 1175385600d 1191196800c
Asia/Baku
  LMT=11964 +03=10800 +04=14400 +05=18000
  @ -1441163964b -405140400c 354916800d 370724400c 386452800d 402260400c 417988800d 433796400c
  449611200d 465343200c 481068000d 496792800c 512517600d 528242400c 543967200d 559692000c
  575416800d 591141600c 606866400d 622591200c 638316000d 654645600c 686098800b 701823600c
  828234000d 846378000c 859680000d 877824000c 891129600d 909273600c 922579200d 941328000c
  954028800d 972777600c 985478400d 1004227200c 1017532800d 1035676800c 1048982400d 1067126400c
  1080432000d 1099180800c 1111881600d 1130630400c 1143331200d 1162080000c 1174780800d
  1193529600c 1206835200d 1224979200c 1238284800d 1256428800c 1269734400d 1288483200c
  1301184000d 1319932800c 1332633600d 1351382400c 1364688000d 1382832000c 1396137600d
  1414281600c 1427587200d 1445731200c
Asia/Bangkok
  LMT=24124 BMT=24124 +07=25200
  @ -2840164924b -1570084924c
Asia/Barnaul
  LMT=20100 +06=21600 +07=25200 +08=28800
  @ -1579844100b -1247551200c 354906000d 370713600c 386442000d 402249600c 417978000d 433785600c
  449600400d 465332400c 481057200d 496782000c 512506800d 528231600c 543956400d 559681200c
  575406000d 591130800c 606855600d 622580400c 638305200d 654634800c 686088000b 695764800c
  701809200d 717534000c 733258800d 748983600c 764708400d 780433200c 796158000d 801590400c
  811886400b 828216000c 846360000b 859665600c 877809600b 891115200c 909259200b 922564800c
  941313600b 954014400c 972763200b 985464000c 1004212800b 1017518400c 1035662400b 1048968000c
  1067112000b 1080417600c 1099166400b 1111867200c 1130616000b 1143316800c 1162065600b
  1174766400c 1193515200b 1206820800c 1224964800b 1238270400c 1256414400b 1269720000c
  1288468800b 1301169600c 1414263600b 1459022400c
Asia/Beirut
  LMT=8520 EET=7200 EEST=10800
  @ -2840149320b -1570413600c -1552186800b -1538359200c -1522551600b -1507514400c -1490583600b
  -1473645600c -1460948400b -399866400c -386650800b -368330400c -355114800b -336794400c
  -323578800b -305172000c -291956400b -273636000c -260420400b 78012000c 86734800b 105055200c
  118270800b 136591200c 149806800b 168127200c 181342800b 199749600c 212965200b 231285600c
  244501200b 262735200c 275950800b 452210400c 466722000b 483746400c 498258000b 515282400c
  529794000b 546818400c 561330000b 581119200c 592952400b 610754400c 624488400b 641512800c
  656024400b 673048800c 687560400b 704671200c 718146000b 733269600c 748990800b 764719200c
  780440400b 796168800c 811890000b 828223200c 843944400b 859672800c 875394000b 891122400c
  906843600b
  + 1999 3.5.0:-7200c 10.5.0:-10800b
Asia/Bishkek
  LMT=17904 +05=18000 +06=21600 +07=25200
  @ -1441169904b -1247547600c 354909600d 370717200c 386445600d 402253200c 417981600d 433789200c
  449604000d 465336000c 481060800d 496785600c 512510400d 528235200c 543960000d 559684800c
  575409600d 591134400c 606859200d 622584000c 638308800d 654638400c 683582400b 703018800c
  717530400b 734468400c 748980000b 765918000c 780429600b 797367600c 811879200b 828817200c
  843933600b 859671000c 877811400b 891120600c 909261000b 922570200c 941315400b 954019800c
  972765000b 985469400c 1004214600b 1017523800c 1035664200b 1048973400c 1067113800b
  1080423000c 1099168200b 1111872600c
Asia/Chita
  LMT=27232 +08=28800 +09=32400 +10=36000
  @ -1579419232b -1247558400c 354898800d 370706400c 386434800d 402242400c 417970800d 433778400c
  449593200d 465325200c 481050000d 496774800c 512499600d 528224400c 543949200d 559674000c
  575398800d 591123600c 606848400d 622573200c 638298000d 654627600c 686080800b 695757600c
  701802000d 717526800c 733251600d 748976400c 764701200d 780426000c 796150800d 811875600c
  828205200d 846349200c 859654800d 877798800c 891104400d 909248400c 922554000d 941302800c
  954003600d 972752400c 985453200d 1004202000c 1017507600d 1035651600c 1048957200d 1067101200c
  1080406800d 1099155600c 1111856400d 1130605200c 1143306000d 1162054800c 1174755600d
  1193504400c 1206810000d 1224954000c 1238259600d 1256403600c 1269709200d 1288458000c
  1301158800d 1414252800b 1459015200c
Asia/Colombo
  LMT=19164 MMT=19172 +0530=19800 +06=21600 +0630=23400
  @ -2840159964b -2019705572c -883287000d -862639200e -764051400c 832962600e 846266400d
  1145039400c
Asia/Damascus
  LMT=8712 EET=7200 EEST=10800 +03=10800
  @ -1577931912b -1568592000c -1554080400b -1537142400c -1522630800b -1505692800c -1491181200b
  -1474243200c -1459126800b -242265600c -228877200b -210556800c -197427600b -178934400c
  -165718800b -147398400c -134269200b -116467200c -102646800b -84326400c -71110800b -52704000c
  -39488400b -21168000c -7952400b 10368000c 23583600b 41904000c 55119600b 73526400c 86742000b
  105062400c 118278000b 136598400c 149814000b 168134400c 181350000b 199756800c 212972400b
  231292800c 241916400b 262828800c 273452400b 418694400c 433810800b 450316800c 465433200b
  508896000c 529196400b 541555200c 562633200b 574387200c 594255600b 607305600c 623199600b
  638928000c 654649200b 670456800c 686264400b 702684000c 717886800b 733096800c 748904400b
  765151200c 780958800b 796687200c 812494800b 828309600c 844117200b 859759200c 875653200b
  891208800c 907189200b 922917600c 938725200b 954540000c 970347600b 986076000c 1001883600b
  1017612000c 1033419600b 1049148000c 1064955600b 1080770400c 1096578000b 1112306400c
  1128114000b 1143842400c 1158872400b 1175205600c 1193950800b 1207260000c 1225486800b
  1238104800c 1256850000b 1270159200c 1288299600b 1301608800c 1319749200b 1333058400c
  1351198800b 1364508000c 1382648400b 1395957600c 1414702800b 1427407200c 1446152400b
  1458856800c 1477602000b 1490911200c 1509051600b 1522360800c 1540501200b 1553810400c
  1571950800b 1585260000c 1604005200b 1616709600c 1635454800b 1648159200c 1666904400d
Asia/Dhaka
  LMT=21700 HMT=21200 +0630=23400 +0530=19800 +06=21600 +07=25200
  @ -2524543300b -891582800c -872058600d -862637400c -576138600e 1245430800f 1262278800e
Asia/Dili
  LMT=30140 +08=28800 +09=32400
  @ -1830412800b -879152400c 199897200b 969120000c
Asia/Dubai
  LMT=13272 +04=14400
  @ -1577936472b
Asia/Dushanbe
  LMT=16512 +05=18000 +06=21600 +07=25200
  @ -1441168512b -1247547600c 354909600d 370717200c 386445600d 402253200c 417981600d 433789200c
  449604000d 465336000c 481060800d 496785600c 512510400d 528235200c 543960000d 559684800c
  575409600d 591134400c 606859200d 622584000c 638308800d 654638400c 684363600b
Asia/Famagusta
  LMT=8148 EET=7200 EEST=10800 +03=10800
  @ -1518920148b 166572000c 182293200b 200959200c 213829200b 228866400c 243982800b 260316000c
  276123600b 291765600c 307486800b 323820000c 338936400b 354664800c 370386000b 386114400c
  401835600b 417564000c 433285200b 449013600c 465339600b 481068000c 496789200b 512517600c
  528238800b 543967200c 559688400b 575416800c 591138000b 606866400c 622587600b 638316000c
  654642000b 670370400c 686091600b 701820000c 717541200b 733269600c 748990800b 764719200c
  780440400b 796168800c 811890000b 828223200c 843944400b 859672800c 875394000b 891122400c
  909277200b 922582800c 941331600b 954032400c 972781200b 985482000c 1004230800b 1017536400c
  1035680400b 1048986000c 1067130000b 1080435600c 1099184400b 1111885200c 1130634000b
  1143334800c 1162083600b 1174784400c 1193533200b 1206838800c 1224982800b 1238288400c
  1256432400b 1269738000c 1288486800b 1301187600c 1319936400b 1332637200c 1351386000b
  1364691600c 1382835600b 1396141200c 1414285200b 1427590800c 1445734800b 1459040400c
  1473282000d 1509238800b
  + 2018 3.5.0:3600c 10.5.0:3600b
Asia/Gaza
  LMT=8272 EET=7200 EEST=10800 IST=7200 IDT=10800
  @ -2185409872b -933638400c -923097600b -919036800c -857347200b -844300800c -825811200b
  -812678400c -794188800b -779846400c -762652800b -748310400c -731116800b -399088800c
  -386650800b -368330400c -355114800b -336790800c -323654400b -305168400c -292032000b
  -273632400c -260496000b -242096400c -228960000b -210560400c -197424000b -178938000c
  -165801600b -147402000c -134265600b -115866000c -102643200b -84330000c -81313200d 142380000e
  150843600d 167176800e 178664400d 334101600e 337730400d 452642400e 462319200d 482277600e
  494370000d 516751200e 526424400d 545436000e 558478800d 576626400e 589323600d 609890400e
  620773200d 638316000e 651618000d 669765600e 683672400d 701820000e 715726800d 733701600e
  747176400d 765151200e 778021200d 796600800e 810075600d 820447200b 828655200c 843170400b
  860104800c 874620000b 891554400c 906069600b 924213600c 939934800b 956268000c 971989200b
  987717600c 1003438800b 1019167200c 1034888400b 1050616800c 1066338000b 1082066400c
  1096581600b 1113516000c 1128380400b 1143842400c 1158872400b 1175378400c 1189638000b
  1206655200c 1219957200b 1238104800c 1252015200b 1269640860c 1281474000b 1301608860c
  1312146000b 1333058400c 1348178400b 1364508000c 1380229200b 1395957600c 1414098000b
  1427493600c 1445551200b 1458946800c 1477692000b 1490396400c 1509141600b 1521846000c
  1540591200b 1553810400c 1572037200b 1585346400c 1603490400b 1616796000c 1635458400b
  1648332000c 1666998000b 1682726400c 1698447600b 1713571200c 1729897200b 1744416000c
  1761346800b 1774656000c 1792796400b 1806105600c 1824850800b 1837555200c 1856300400b
  1869004800c 1887750000b 1901059200c 1919199600b 1932508800c 1950649200b 1963958400c
  1982703600b 1995408000c 2014153200b 2026857600c 2045602800b 2058307200c 2077052400b
  2090361600c 2107897200b 2121811200c 2138742000b 2153260800c 2168982000b 2184710400c
  2199826800b 2216160000c 2230066800b 2234304000c 2234905200b 2248214400c 2260911600b
  2264544000c 2266354800b 2279664000c 2291756400b 2295388800c 2297804400b 2311113600c
  2321996400b 2326233600c 2329254000b 2342563200c 2352841200b 2356473600c 2361308400b
  2374012800c 2383686000b 2387318400c 2392758000b 2405462400c 2413926000b 2418163200c
  2424207600b 2437516800c 2444770800b 2448403200c 2455657200b 2468966400c 2475010800b
  2479248000c 2487106800b 2500416000c 2505855600b 2509488000c 2519161200b 2531865600c
  2536700400b 2540332800c 2550610800b 2563315200c 2566940400b 2571177600c 2582060400b
  2595369600c 2597785200b 2601417600c 2613510000b 2626819200c 2628025200b 2632262400c
  2644959600b 2658268800c 2658870000b 2663107200c 2676409200b 2693347200c 2708463600b
  2724192000c 2739913200b 2754432000c 2771362800b 2785276800c 2802812400b 2816121600c
  2834262000b 2847571200c 2866316400b 2879020800c 2897766000b 2910470400c 2929215600b
  2941920000c 2960665200b 2973974400c 2992114800b 3005424000c 3023564400b 3036873600c
  3055618800b 3068323200c 3087068400b 3099772800c 3117913200b 3131827200c 3148758000b
  3163276800c 3179602800b 3194726400c 3209842800b 3226176000c 3240687600b 3244320000c
  3244921200b 3257625600c 3271532400b 3275164800c 3276370800b 3289075200c 3301772400b
  3306009600c 3307820400b 3321129600c 3332617200b 3336249600c 3339270000b 3352579200c
  3362857200b 3367094400c 3370719600b 3384028800c 3393702000b 3397939200c 3402774000b
  3415478400c 3424546800b 3428179200c 3434223600b 3446928000c 3454786800b 3459024000c
  3465673200b 3478982400c 3485631600b 3489264000c 3497122800b 3510432000c 3516476400b
  3520108800c 3528572400b 3541881600c 3546716400b 3550953600c 3560022000b 3573331200c
  3577561200b 3581193600c 3592076400b 3604780800c 3607801200b 3612038400c 3623526000b
  3636230400c 3638646000b 3642883200c 3654975600b 3668284800c 3669490800b 3673123200c
  3686425200b
Asia/Hebron
  LMT=8423 EET=7200 EEST=10800 IST=7200 IDT=10800
  @ -2185410023b -933638400c -923097600b -919036800c -857347200b -844300800c -825811200b
  -812678400c -794188800b -779846400c -762652800b -748310400c -731116800b -399088800c
  -386650800b -368330400c -355114800b -336790800c -323654400b -305168400c -292032000b
  -273632400c -260496000b -242096400c -228960000b -210560400c -197424000b -178938000c
  -165801600b -147402000c -134265600b -115866000c -102643200b -84330000c -81313200d 142380000e
  150843600d 167176800e 178664400d 334101600e 337730400d 452642400e 462319200d 482277600e
  494370000d 516751200e 526424400d 545436000e 558478800d 576626400e 589323600d 609890400e
  620773200d 638316000e 651618000d 669765600e 683672400d 701820000e 715726800d 733701600e
  747176400d 765151200e 778021200d 796600800e 810075600d 820447200b 828655200c 843170400b
  860104800c 874620000b 891554400c 906069600b 924213600c 939934800b 956268000c 971989200b
  987717600c 1003438800b 1019167200c 1034888400b 1050616800c 1066338000b 1082066400c
  1096581600b 1113516000c 1128380400b 1143842400c 1158872400b 1175378400c 1189638000b
  1206655200c 1220216400b 1238104800c 1252015200b 1269554400c 1281474000b 1301608860c
  1312146000b 1314655200c 1317330000b 1333058400c 1348178400b 1364508000c 1380229200b
  1395957600c 1414098000b 1427493600c 1445551200b 1458946800c 1477692000b 1490396400c
  1509141600b 1521846000c 1540591200b 1553810400c 1572037200b 1585346400c 1603490400b
  1616796000c 1635458400b 1648332000c 1666998000b 1682726400c 1698447600b 1713571200c
  1729897200b 1744416000c 1761346800b 1774656000c 1792796400b 1806105600c 1824850800b
  1837555200c 1856300400b 1869004800c 1887750000b 1901059200c 1919199600b 1932508800c
  1950649200b 1963958400c 1982703600b 1995408000c 2014153200b 2026857600c 2045602800b
  2058307200c 2077052400b 2090361600c 2107897200b 2121811200c 2138742000b 2153260800c
  2168982000b 2184710400c 2199826800b 2216160000c 2230066800b 2234304000c 2234905200b
  2248214400c 2260911600b 2264544000c 2266354800b 2279664000c 2291756400b 2295388800c
  2297804400b 2311113600c 2321996400b 2326233600c 2329254000b 2342563200c 2352841200b
  2356473600c 2361308400b 2374012800c 2383686000b 2387318400c 2392758000b 2405462400c
  2413926000b 2418163200c 2424207600b 2437516800c 2444770800b 2448403200c 2455657200b
  2468966400c 2475010800b 2479248000c 2487106800b 2500416000c 2505855600b 2509488000c
  2519161200b 2531865600c 2536700400b 2540332800c 2550610800b 2563315200c 2566940400b
  2571177600c 2582060400b 2595369600c 2597785200b 2601417600c 2613510000b 2626819200c
  2628025200b 2632262400c 2644959600b 2658268800c 2658870000b 2663107200c 2676409200b
  2693347200c 2708463600b 2724192000c 2739913200b 2754432000c 2771362800b 2785276800c
  2802812400b 2816121600c 2834262000b 2847571200c 2866316400b 2879020800c 2897766000b
  2910470400c 2929215600b 2941920000c 2960665200b 2973974400c 2992114800b 3005424000c
  3023564400b 3036873600c 3055618800b 3068323200c 3087068400b 3099772800c 3117913200b
  3131827200c 3148758000b 3163276800c 3179602800b 3194726400c 3209842800b 3226176000c
  3240687600b 3244320000c 3244921200b 3257625600c 3271532400b 3275164800c 3276370800b
  3289075200c 3301772400b 3306009600c 3307820400b 3321129600c 3332617200b 3336249600c
  3339270000b 3352579200c 3362857200b 3367094400c 3370719600b 3384028800c 3393702000b
  3397939200c 3402774000b 3415478400c 3424546800b 3428179200c 3434223600b 3446928000c
  3454786800b 3459024000c 3465673200b 3478982400c 3485631600b 3489264000c 3497122800b
  3510432000c 3516476400b 3520108800c 3528572400b 3541881600c 3546716400b 3550953600c
  3560022000b 3573331200c 3577561200b 3581193600c 3592076400b 3604780800c 3607801200b
  3612038400c 3623526000b 3636230400c 3638646000b 3642883200c 3654975600b 3668284800c
  3669490800b 3673123200c 3686425200b
Asia/Ho_Chi_Minh
  LMT=25590 PLMT=25590 +07=25200 +08=28800 +09=32400
  @ -2004073590b -1851577590c -852105600d -782643600e -767869200c -718095600d -457772400c
  -315648000d 171820800c
Asia/Hong_Kong
  LMT=27402 HKT=28800 HKST=32400 HKWT=30600 JST=32400
  @ -2056690800b -900910800c -891579600d -884248200e -761209200b -747907200c -728541000b
  -717049800c -697091400b -683785800c -668061000b -654755400c -636611400b -623305800c
  -605161800b -591856200c -573712200b -559801800c -541657800b -528352200c -510211800b
  -498112200c -478762200b -466662600c -446707800b -435213000c -415258200b -403158600c
  -383808600b -371709000c -352359000b -340259400c -320909400b -308809800c -288855000b
  -277360200c -257405400b -245910600c -225955800b -213856200c -194506200b -182406600c
  -163056600b -148537800c -132816600b -117088200c -101367000b -85638600c -69312600b -53584200c
  -37863000b -22134600c -6413400b 9315000c 25036200b 40764600c 56485800b 72214200c 88540200b
  104268600c 119989800b 126041400c 151439400b 167167800c 182889000b 198617400c 214338600b
  295385400c 309292200b
Asia/Hovd
  LMT=21996 +06=21600 +07=25200 +08=28800
  @ -2032927596b 252439200c 417978000d 433785600c 449600400d 465321600c 481050000d 496771200c
  512499600d 528220800c 543949200d 559670400c 575398800d 591120000c 606848400d 622569600c
  638298000d 654624000c 670352400d 686073600c 701802000d 717523200c 733251600d 748972800c
  764701200d 780422400c 796150800d 811872000c 828205200d 843926400c 859654800d 875376000c
  891104400d 906825600c 988398000d 1001700000c 1017428400d 1033149600c 1048878000d 1064599200c
  1080327600d 1096048800c 1111777200d 1127498400c 1143226800d 1159552800c 1427482800d
  1443196800c 1458932400d 1474646400c
Asia/Irkutsk
  LMT=25025 IMT=25025 +07=25200 +08=28800 +09=32400
  @ -2840165825b -1575874625c -1247554800d 354902400e 370710000d 386438400e 402246000d
  417974400e 433782000d 449596800e 465328800d 481053600e 496778400d 512503200e 528228000d
  543952800e 559677600d 575402400e 591127200d 606852000e 622576800d 638301600e 654631200d
  686084400c 695761200d 701805600e 717530400d 733255200e 748980000d 764704800e 780429600d
  796154400e 811879200d 828208800e 846352800d 859658400e 877802400d 891108000e 909252000d
  922557600e 941306400d 954007200e 972756000d 985456800e 1004205600d 1017511200e 1035655200d
  1048960800e 1067104800d 1080410400e 1099159200d 1111860000e 1130608800d 1143309600e
  1162058400d 1174759200e 1193508000d 1206813600e 1224957600d 1238263200e 1256407200d
  1269712800e 1288461600d 1301162400e 1414256400d
Asia/Jakarta
  LMT=25632 BMT=25632 +0720=26400 +0730=27000 +09=32400 +08=28800 WIB=25200
  @ -3231299232b -1451719200c -1172906400d -876641400e -766054800d -683883000f -620812800d
  -189415800g
Asia/Jayapura
  LMT=33768 +09=32400 +0930=34200 WIT=32400
  @ -1172913768b -799491600c -189423000d
Asia/Jerusalem
  LMT=8454 JMT=8440 IST=7200 IDT=10800 IDDT=14400
  @ -2840149254b -1641003640c -933638400d -923097600c -919036800d -857347200c -844300800d
  -825811200c -812678400d -794188800c -779846400d -762652800c -748310400d -731116800c
  -681955200e -673228800d -667958400c -652320000d -636422400c -622080000d -608947200c
  -591840000d -572486400c -558576000d -542851200c -527731200d -514425600c -490838400d
  -482976000c -459388800d -451526400c -428544000d -418262400c -400118400d -387417600c
  142380000d 150843600c 167176800d 178664400c 334101600d 337730400c 452642400d 462319200c
  482277600d 494370000c 516751200d 526424400c 545436000d 558478800c 576626400d 589323600c
  609890400d 620773200c 638316000d 651618000c 669765600d 683672400c 701820000d 715726800c
  733701600d 747176400c 765151200d 778021200c 796600800d 810075600c 826840800d 842821200c
  858895200d 874184400c 890344800d 905029200c 923011200d 936313200c 955670400d 970783200c
  986770800d 1001282400c 1017356400d 1033941600c 1048806000d 1065132000c 1081292400d
  1095804000c 1112313600d 1128812400c 1143763200d 1159657200c 1175212800d 1189897200c
  1206662400d 1223161200c 1238112000d 1254006000c 1269561600d 1284246000c 1301616000d
  1317510000c 1333065600d 1348354800c
  + 2013 3.4.4:86400d 10.5.0:-3600c
Asia/Kabul
  LMT=16608 +04=14400 +0430=16200
  @ -2524538208b -788932800c
Asia/Kamchatka
  LMT=38076 +11=39600 +12=43200 +13=46800
  @ -1487759676b -1247569200c 354888000d 370695600c 386424000d 402231600c 417960000d 433767600c
  449582400d 465314400c 481039200d 496764000c 512488800d 528213600c 543938400d 559663200c
  575388000d 591112800c 606837600d 622562400c 638287200d 654616800c 686070000b 695746800c
  701791200d 717516000c 733240800d 748965600c 764690400d 780415200c 796140000d 811864800c
  828194400d 846338400c 859644000d 877788000c 891093600d 909237600c 922543200d 941292000c
  953992800d 972741600c 985442400d 1004191200c 1017496800d 1035640800c 1048946400d 1067090400c
  1080396000d 1099144800c 1111845600d 1130594400c 1143295200d 1162044000c 1174744800d
  1193493600c 1206799200d 1224943200c 1238248800d 1256392800c 1288450800b 1301151600c
Asia/Karachi
  LMT=16092 +0530=19800 +0630=23400 +05=18000 PKT=18000 PKST=21600
  @ -1988166492b -862637400c -764145000b -576135000d 38775600e 1018119600f 1033840800e
  1212260400f 1225476000e 1239735600f 1257012000e
Asia/Kathmandu
  LMT=20476 +0530=19800 +0545=20700
  @ -1577943676b 504901800c
Asia/Khandyga
  LMT=32533 +08=28800 +09=32400 +10=36000 +11=39600
  @ -1579424533b -1247558400c 354898800d 370706400c 386434800d 402242400c 417970800d 433778400c
  449593200d 465325200c 481050000d 496774800c 512499600d 528224400c 543949200d 559674000c
  575398800d 591123600c 606848400d 622573200c 638298000d 654627600c 686080800b 695757600c
  701802000d 717526800c 733251600d 748976400c 764701200d 780426000c 796150800d 811875600c
  828205200d 846349200c 859654800d 877798800c 891104400d 909248400c 922554000d 941302800c
  954003600d 972752400c 985453200d 1004202000c 1017507600d 1035651600c 1048957200d 1067101200c
  1072882800d 1080403200e 1099152000d 1111852800e 1130601600d 1143302400e 1162051200d
  1174752000e 1193500800d 1206806400e 1224950400d 1238256000e 1256400000d 1269705600e
  1288454400d 1301155200e 1315832400d 1414252800c
Asia/Kolkata
  LMT=21208 HMT=21200 MMT=19270 IST=19800 +0630=23400
  @ -3645237208b -3155694800c -2019705670d -891581400e -872058600d -862637400e -764145000d
Asia/Krasnoyarsk
  LMT=22286 +06=21600 +07=25200 +08=28800
  @ -1577513486b -1247551200c 354906000d 370713600c 386442000d 402249600c 417978000d 433785600c
  449600400d 465332400c 481057200d 496782000c 512506800d 528231600c 543956400d 559681200c
  575406000d 591130800c 606855600d 622580400c 638305200d 654634800c 686088000b 695764800c
  701809200d 717534000c 733258800d 748983600c 764708400d 780433200c 796158000d 811882800c
  828212400d 846356400c 859662000d 877806000c 891111600d 909255600c 922561200d 941310000c
  954010800d 972759600c 985460400d 1004209200c 1017514800d 1035658800c 1048964400d 1067108400c
  1080414000d 1099162800c 1111863600d 1130612400c 1143313200d 1162062000c 1174762800d
  1193511600c 1206817200d 1224961200c 1238266800d 1256410800c 1269716400d 1288465200c
  1301166000d 1414260000c
Asia/Kuching
  LMT=26480 +0730=27000 +08=28800 +0820=30000 +09=32400
  @ -1383463280b -1167636600c -1082448000d -1074586800c -1050825600d -1042964400c -1019289600d
  -1011428400c -987753600d -979892400c -956217600d -948356400c -924595200d -916734000c
  -893059200d -885198000c -879667200e -767005200c
Asia/Macau
  LMT=27250 CST=28800 +09=32400 +10=36000 CDT=32400
  @ -2056692850b -884509200c -873280800d -855918000c -841744800d -828529200c -765363600b
  -747046800e -733827600b -716461200e -697021200b -683715600e -667990800b -654771600e
  -636627600b -623322000e -605178000b -591872400e -573642000b -559818000e -541674000b
  -528368400e -510224400b -498128400e -478774800b -466678800e -446720400b -435229200e
  -415258200b -403158600e -383808600b -371709000e -352359000b -340259400e -320909400b
  -308809800e -288855000b -277360200e -257405400b -245910600e -225955800b -213856200e
  -194506200b -182406600e -163056600b -148537800e -132820200b -117088200e -101370600b
  -85638600e -69312600b -53584200e -37863000b -22134600e -6413400b 9315000e 25036200b
  40764600e 56485800b 72214200e 88540200b 104268600e 119989800b 126041400e 151439400b
  167167800e 182889000b 198617400e 214338600b 295385400e 309292200b
Asia/Magadan
  LMT=36192 +10=36000 +11=39600 +12=43200
  @ -1441188192b -1247565600c 354891600d 370699200c 386427600d 402235200c 417963600d 433771200c
  449586000d 465318000c 481042800d 496767600c 512492400d 528217200c 543942000d 559666800c
  575391600d 591116400c 606841200d 622566000c 638290800d 654620400c 686073600b 695750400c
  701794800d 717519600c 733244400d 748969200c 764694000d 780418800c 796143600d 811868400c
  828198000d 846342000c 859647600d 877791600c 891097200d 909241200c 922546800d 941295600c
  953996400d 972745200c 985446000d 1004194800c 1017500400d 1035644400c 1048950000d 1067094000c
  1080399600d 1099148400c 1111849200d 1130598000c 1143298800d 1162047600c 1174748400d
  1193497200c 1206802800d 1224946800c 1238252400d 1256396400c 1269702000d 1288450800c
  1301151600d 1414245600b 1461427200c
Asia/Makassar
  LMT=28656 MMT=28656 +08=28800 +09=32400 WITA=28800
  @ -1577951856b -1172908656c -880272000d -766054800e
Asia/Manila
  LMT=-57368 LMT=29032 PST=28800 PDT=32400 JST=32400
  @ -3944621032b -2219083200c -1046678400d -1040115600c -885024000d -880016400e -783594000d
  -760093200c -496224000d -491562000c 228326400d 243702000c 643219200d 649177200c
Asia/Nicosia
  LMT=8008 EET=7200 EEST=10800
  @ -1518920008b 166572000c 182293200b 200959200c 213829200b 228866400c 243982800b 260316000c
  276123600b 291765600c 307486800b 323820000c 338936400b 354664800c 370386000b 386114400c
  401835600b 417564000c 433285200b 449013600c 465339600b 481068000c 496789200b 512517600c
  528238800b 543967200c 559688400b 575416800c 591138000b 606866400c 622587600b 638316000c
  654642000b 670370400c 686091600b 701820000c 717541200b 733269600c 748990800b 764719200c
  780440400b 796168800c 811890000b 828223200c 843944400b 859672800c 875394000b 891122400c
  909277200b
  + 1999 3.5.0:3600c 10.5.0:3600b
Asia/Novokuznetsk
  LMT=20928 +06=21600 +07=25200 +08=28800
  @ -1441259328b -1247551200c 354906000d 370713600c 386442000d 402249600c 417978000d 433785600c
  449600400d 465332400c 481057200d 496782000c 512506800d 528231600c 543956400d 559681200c
  575406000d 591130800c 606855600d 622580400c 638305200d 654634800c 686088000b 695764800c
  701809200d 717534000c 733258800d 748983600c 764708400d 780433200c 796158000d 811882800c
  828212400d 846356400c 859662000d 877806000c 891111600d 909255600c 922561200d 941310000c
  954010800d 972759600c 985460400d 1004209200c 1017514800d 1035658800c 1048964400d 1067108400c
  1080414000d 1099162800c 1111863600d 1130612400c 1143313200d 1162062000c 1174762800d
  1193511600c 1206817200d 1224961200c 1238266800d 1256410800c 1288468800b 1301169600c
Asia/Novosibirsk
  LMT=19900 +06=21600 +07=25200 +08=28800
  @ -1579476700b -1247551200c 354906000d 370713600c 386442000d 402249600c 417978000d 433785600c
  449600400d 465332400c 481057200d 496782000c 512506800d 528231600c 543956400d 559681200c
  575406000d 591130800c 606855600d 622580400c 638305200d 654634800c 686088000b 695764800c
  701809200d 717534000c 733258800d 738086400c 748987200b 764712000c 780436800b 796161600c
  811886400b 828216000c 846360000b 859665600c 877809600b 891115200c 909259200b 922564800c
  941313600b 954014400c 972763200b 985464000c 1004212800b 1017518400c 1035662400b 1048968000c
  1067112000b 1080417600c 1099166400b 1111867200c 1130616000b 1143316800c 1162065600b
  1174766400c 1193515200b 1206820800c 1224964800b 1238270400c 1256414400b 1269720000c
  1288468800b 1301169600c 1414263600b 1469304000c
Asia/Omsk
  LMT=17610 +05=18000 +06=21600 +07=25200
  @ -1582088010b -1247547600c 354909600d 370717200c 386445600d 402253200c 417981600d 433789200c
  449604000d 465336000c 481060800d 496785600c 512510400d 528235200c 543960000d 559684800c
  575409600d 591134400c 606859200d 622584000c 638308800d 654638400c 686091600b 695768400c
  701812800d 717537600c 733262400d 748987200c 764712000d 780436800c 796161600d 811886400c
  828216000d 846360000c 859665600d 877809600c 891115200d 909259200c 922564800d 941313600c
  954014400d 972763200c 985464000d 1004212800c 1017518400d 1035662400c 1048968000d 1067112000c
  1080417600d 1099166400c 1111867200d 1130616000c 1143316800d 1162065600c 1174766400d
  1193515200c 1206820800d 1224964800c 1238270400d 1256414400c 1269720000d 1288468800c
  1301169600d 1414263600c
Asia/Oral
  LMT=12324 +03=10800 +05=18000 +06=21600 +04=14400
  @ -1441164324b -1247540400c 354913200d 402256800c 417985200d 433792800c 449607600d 465339600c
  481064400d 496789200c 512514000d 528238800c 543963600d 559688400c 575413200d 591138000c
  622591200e 638316000c 654645600e 670370400c 686095200e 695772000c 717544800e 733269600c
  748994400e 764719200c 780444000e 796168800c 811893600e 828223200c 846367200e 859672800c
  877816800e 891122400c 909266400e 922572000c 941320800e 954021600c 972770400e 985471200c
  1004220000e 1017525600c 1035669600e 1048975200c 1067119200e 1080424800c
Asia/Pontianak
  LMT=26240 PMT=26240 +0730=27000 +09=32400 +08=28800 WITA=28800 WIB=25200
  @ -1946186240b -1172906240c -881220600d -766054800c -683883000e -620812800c -189415800f
  567964800g
Asia/Pyongyang
  LMT=30180 KST=30600 JST=32400 KST=32400
  @ -1948782180b -1830414600c -768646800d 1439564400b 1525446000d
Asia/Qatar
  LMT=12368 +04=14400 +03=10800
  @ -1577935568b 76190400c
Asia/Qostanay
  LMT=15268 +04=14400 +05=18000 +06=21600
  @ -1441167268b -1247544000c 354913200d 402256800c 417985200d 433792800c 449607600d 465339600c
  481064400d 496789200c 512514000d 528238800c 543963600d 559688400c 575413200d 591138000c
  606862800d 622587600c 638312400d 654642000c 686095200b 695772000c 701816400d 717541200c
  733266000d 748990800c 764715600d 780440400c 796165200d 811890000c 828219600d 846363600c
  859669200d 877813200c 891118800d 909262800c 922568400d 941317200c 954018000d 972766800c
  985467600d 1004216400c 1017522000d 1035666000c 1048971600d 1067115600c 1080421200d
  1709229600c
Asia/Qyzylorda
  LMT=15712 +04=14400 +05=18000 +06=21600
  @ -1441167712b -1247544000c 354913200d 402256800c 417985200d 433792800c 449607600d 465339600c
  481064400d 496789200c 512514000d 528238800c 543963600d 559688400c 575413200d 591138000c
  606862800d 622587600c 638312400d 654642000c 695768400d 717541200c 733266000d 748990800c
  764715600d 780440400c 796165200d 811890000c 828219600d 846363600c 859669200d 877813200c
  891118800d 909262800c 922568400d 941317200c 954018000d 972766800c 985467600d 1004216400c
  1017522000d 1035666000c 1048971600d 1067115600c 1080421200d 1545328800c
Asia/Riyadh
  LMT=11212 +03=10800
  @ -719636812b
Asia/Sakhalin
  LMT=34248 +09=32400 +11=39600 +12=43200 +10=36000
  @ -2031039048b -768560400c 354891600d 370699200c 386427600d 402235200c 417963600d 433771200c
  449586000d 465318000c 481042800d 496767600c 512492400d 528217200c 543942000d 559666800c
  575391600d 591116400c 606841200d 622566000c 638290800d 654620400c 686073600e 695750400c
  701794800d 717519600c 733244400d 748969200c 764694000d 780418800c 796143600d 811868400c
  828198000d 846342000c 877795200e 891100800c 909244800e 922550400c 941299200e 954000000c
  972748800e 985449600c 1004198400e 1017504000c 1035648000e 1048953600c 1067097600e
  1080403200c 1099152000e 1111852800c 1130601600e 1143302400c 1162051200e 1174752000c
  1193500800e 1206806400c 1224950400e 1238256000c 1256400000e 1269705600c 1288454400e
  1301155200c 1414249200e 1459008000c
Asia/Samarkand
  LMT=16073 +04=14400 +05=18000 +06=21600
  @ -1441168073b -1247544000c 354913200d 402256800c 417985200d 433792800c 449607600d 465339600c
  481064400d 496789200c 512514000d 528238800c 543963600d 559688400c 575413200d 591138000c
  606862800d 622587600c 638312400d 654642000c 670366800d 686091600c
Asia/Seoul
  LMT=30472 KST=30600 JST=32400 KST=32400 KDT=36000 KDT=34200
  @ -1948782472b -1830414600c -767350800d -681210000e -672228000d -654771600e -640864800d
  -623408400e -609415200d -588848400e -577965600d -498128400b -462702600f -451733400b
  -429784200f -418296600b -399544200f -387451800b -368094600f -356002200b -336645000f
  -324552600b -305195400f -293103000b -264933000d 547578000e 560883600d 579027600e 592333200d
Asia/Shanghai
  LMT=29143 CST=28800 CDT=32400
  @ -2177481943b -1600675200c -1585904400b -933667200c -922093200b -908870400c -888829200b
  -881049600c -767869200b -745833600c -733827600b -716889600c -699613200b -683884800c
  -670669200b -652348800c -650019600b 515527200c 527014800b 545162400c 558464400b 577216800c
  589914000b 608666400c 621968400b 640116000c 653418000b 671565600c 684867600b
Asia/Singapore
  LMT=24925 SMT=24925 +07=25200 +0720=26400 +0730=27000 +09=32400 +08=28800
  @ -2177477725b -2038200925c -1167634800d -894180000e -879665400f -767005200e 378662400g
Asia/Srednekolymsk
  LMT=36892 +10=36000 +11=39600 +12=43200
  @ -1441188892b -1247565600c 354891600d 370699200c 386427600d 402235200c 417963600d 433771200c
  449586000d 465318000c 481042800d 496767600c 512492400d 528217200c 543942000d 559666800c
  575391600d 591116400c 606841200d 622566000c 638290800d 654620400c 686073600b 695750400c
  701794800d 717519600c 733244400d 748969200c 764694000d 780418800c 796143600d 811868400c
  828198000d 846342000c 859647600d 877791600c 891097200d 909241200c 922546800d 941295600c
  953996400d 972745200c 985446000d 1004194800c 1017500400d 1035644400c 1048950000d 1067094000c
  1080399600d 1099148400c 1111849200d 1130598000c 1143298800d 1162047600c 1174748400d
  1193497200c 1206802800d 1224946800c 1238252400d 1256396400c 1269702000d 1288450800c
  1301151600d 1414245600c
Asia/Taipei
  LMT=29160 CST=28800 JST=32400 CDT=32400
  @ -2335248360b -1017820800c -766224000b -745833600d -733827600b -716889600d -699613200b
  -683884800d -670669200b -652348800d -639133200b -620812800d -607597200b -589276800d
  -576061200b -562924800d -541760400b -528710400d -510224400b -497174400d -478688400b
  -465638400d -449830800b -434016000d -418208400b -402480000d -386672400b -370944000d
  -355136400b -339408000d -323600400b -302515200d -291978000b -270979200d -260442000b
  133977600d 149785200b 165513600d 181321200b 299606400d 307551600b
Asia/Tashkent
  LMT=16631 +05=18000 +06=21600 +07=25200
  @ -1441168631b -1247547600c 354909600d 370717200c 386445600d 402253200c 417981600d 433789200c
  449604000d 465336000c 481060800d 496785600c 512510400d 528235200c 543960000d 559684800c
  575409600d 591134400c 606859200d 622584000c 638308800d 654638400c 686091600b
Asia/Tbilisi
  LMT=10751 TBMT=10751 +03=10800 +04=14400 +05=18000
  @ -2840151551b -1441162751c -405140400d 354916800e 370724400d 386452800e 402260400d 417988800e
  433796400d 449611200e 465343200d 481068000e 496792800d 512517600e 528242400d 543967200e
  559692000d 575416800e 591141600d 606866400e 622591200d 638316000e 654645600d 686098800c
  701816400d 717537600c 733266000d 748987200c 764715600d 796161600e 811882800d 828216000e
  877806000d 891115200e 909255600d 922564800e 941310000d 954014400e 972759600d 985464000e
  1004209200d 1017518400e 1035658800d 1048968000e 1067108400d 1080417600e 1088276400d
  1099177200c 1111878000d
Asia/Tehran
  LMT=12344 TMT=12344 +0330=12600 +0430=16200 +04=14400 +05=18000
  @ -1704165944b -1090466744c 227820600d 246223800e 259617600f 271108800e 279576000c 296598600d
  306531000c 322432200d 338499000c 673216200d 685481400c 701209800d 717103800c 732745800d
  748639800c 764281800d 780175800c 795817800d 811711800c 827353800d 843247800c 858976200d
  874870200c 890512200d 906406200c 922048200d 937942200c 953584200d 969478200c 985206600d
  1001100600c 1016742600d 1032636600c 1048278600d 1064172600c 1079814600d 1095708600c
  1111437000d 1127331000c 1206045000d 1221939000c 1237667400d 1253561400c 1269203400d
  1285097400c 1300739400d 1316633400c 1332275400d 1348169400c 1363897800d 1379791800c
  1395433800d 1411327800c 1426969800d 1442863800c 1458505800d 1474399800c 1490128200d
  1506022200c 1521664200d 1537558200c 1553200200d 1569094200c 1584736200d 1600630200c
  1616358600d 1632252600c 1647894600d 1663788600c
Asia/Thimphu
  LMT=21516 +0530=19800 +06=21600
  @ -706341516b 560025000c
Asia/Tokyo
  LMT=33539 JST=32400 JDT=36000
  @ -2587712400b -683802000c -672310800b -654771600c -640861200b -620298000c -609411600b
  -588848400c -577962000b
Asia/Tomsk
  LMT=20391 +06=21600 +07=25200 +08=28800
  @ -1578807591b -1247551200c 354906000d 370713600c 386442000d 402249600c 417978000d 433785600c
  449600400d 465332400c 481057200d 496782000c 512506800d 528231600c 543956400d 559681200c
  575406000d 591130800c 606855600d 622580400c 638305200d 654634800c 686088000b 695764800c
  701809200d 717534000c 733258800d 748983600c 764708400d 780433200c 796158000d 811882800c
  828212400d 846356400c 859662000d 877806000c 891111600d 909255600c 922561200d 941310000c
  954010800d 972759600c 985460400d 1004209200c 1017514800d 1020193200c 1035662400b 1048968000c
  1067112000b 1080417600c 1099166400b 1111867200c 1130616000b 1143316800c 1162065600b
  1174766400c 1193515200b 1206820800c 1224964800b 1238270400c 1256414400b 1269720000c
  1288468800b 1301169600c 1414263600b 1464465600c
Asia/Ulaanbaatar
  LMT=25652 +07=25200 +08=28800 +09=32400
  @ -2032931252b 252435600c 417974400d 433782000c 449596800d 465318000c 481046400d 496767600c
  512496000d 528217200c 543945600d 559666800c 575395200d 591116400c 606844800d 622566000c
  638294400d 654620400c 670348800d 686070000c 701798400d 717519600c 733248000d 748969200c
  764697600d 780418800c 796147200d 811868400c 828201600d 843922800c 859651200d 875372400c
  891100800d 906822000c 988394400d 1001696400c 1017424800d 1033146000c 1048874400d 1064595600c
  1080324000d 1096045200c 1111773600d 1127494800c 1143223200d 1159549200c 1427479200d
  1443193200c 1458928800d 1474642800c
Asia/Urumqi
  LMT=21020 +06=21600
  @ -1325483420b
Asia/Ust-Nera
  LMT=34374 +08=28800 +09=32400 +12=43200 +11=39600 +10=36000
  @ -1579426374b -1247558400c 354898800d 370699200e 386427600d 402235200e 417963600d 433771200e
  449586000d 465318000e 481042800d 496767600e 512492400d 528217200e 543942000d 559666800e
  575391600d 591116400e 606841200d 622566000e 638290800d 654620400e 686073600f 695750400e
  701794800d 717519600e 733244400d 748969200e 764694000d 780418800e 796143600d 811868400e
  828198000d 846342000e 859647600d 877791600e 891097200d 909241200e 922546800d 941295600e
  953996400d 972745200e 985446000d 1004194800e 1017500400d 1035644400e 1048950000d 1067094000e
  1080399600d 1099148400e 1111849200d 1130598000e 1143298800d 1162047600e 1174748400d
  1193497200e 1206802800d 1224946800e 1238252400d 1256396400e 1269702000d 1288450800e
  1301151600d 1315828800e 1414249200f
Asia/Vladivostok
  LMT=31651 +09=32400 +10=36000 +11=39600
  @ -1487321251b -1247562000c 354895200d 370702800c 386431200d 402238800c 417967200d 433774800c
  449589600d 465321600c 481046400d 496771200c 512496000d 528220800c 543945600d 559670400c
  575395200d 591120000c 606844800d 622569600c 638294400d 654624000c 686077200b 695754000c
  701798400d 717523200c 733248000d 748972800c 764697600d 780422400c 796147200d 811872000c
  828201600d 846345600c 859651200d 877795200c 891100800d 909244800c 922550400d 941299200c
  954000000d 972748800c 985449600d 1004198400c 1017504000d 1035648000c 1048953600d 1067097600c
  1080403200d 1099152000c 1111852800d 1130601600c 1143302400d 1162051200c 1174752000d
  1193500800c 1206806400d 1224950400c 1238256000d 1256400000c 1269705600d 1288454400c
  1301155200d 1414249200c
Asia/Yakutsk
  LMT=31138 +08=28800 +09=32400 +10=36000
  @ -1579423138b -1247558400c 354898800d 370706400c 386434800d 402242400c 417970800d 433778400c
  449593200d 465325200c 481050000d 496774800c 512499600d 528224400c 543949200d 559674000c
  575398800d 591123600c 606848400d 622573200c 638298000d 654627600c 686080800b 695757600c
  701802000d 717526800c 733251600d 748976400c 764701200d 780426000c 796150800d 811875600c
  828205200d 846349200c 859654800d 877798800c 891104400d 909248400c 922554000d 941302800c
  954003600d 972752400c 985453200d 1004202000c 1017507600d 1035651600c 1048957200d 1067101200c
  1080406800d 1099155600c 1111856400d 1130605200c 1143306000d 1162054800c 1174755600d
  1193504400c 1206810000d 1224954000c 1238259600d 1256403600c 1269709200d 1288458000c
  1301158800d 1414252800c
Asia/Yangon
  LMT=23087 RMT=23087 +0630=23400 +09=32400
  @ -2840163887b -1577946287c -873268200d -778410000c
Asia/Yekaterinburg
  LMT=14553 PMT=13505 +04=14400 +05=18000 +06=21600
  @ -1688270553b -1592610305c -1247544000d 354913200e 370720800d 386449200e 402256800d
  417985200e 433792800d 449607600e 465339600d 481064400e 496789200d 512514000e 528238800d
  543963600e 559688400d 575413200e 591138000d 606862800e 622587600d 638312400e 654642000d
  686095200c 695772000d 701816400e 717541200d 733266000e 748990800d 764715600e 780440400d
  796165200e 811890000d 828219600e 846363600d 859669200e 877813200d 891118800e 909262800d
  922568400e 941317200d 954018000e 972766800d 985467600e 1004216400d 1017522000e 1035666000d
  1048971600e 1067115600d 1080421200e 1099170000d 1111870800e 1130619600d 1143320400e
  1162069200d 1174770000e 1193518800d 1206824400e 1224968400d 1238274000e 1256418000d
  1269723600e 1288472400d 1301173200e 1414267200d
Asia/Yerevan
  LMT=10680 +03=10800 +04=14400 +05=18000
  @ -1441162680b -405140400c 354916800d 370724400c 386452800d 402260400c 417988800d 433796400c
  449611200d 465343200c 481068000d 496792800c 512517600d 528242400c 543967200d 559692000c
  575416800d 591141600c 606866400d 622591200c 638316000d 654645600c 686098800b 701823600c
  717548400b 733273200c 748998000b 764722800c 780447600b 796172400c 859672800d 877816800c
  891122400d 909266400c 922572000d 941320800c 954021600d 972770400c 985471200d 1004220000c
  1017525600d 1035669600c 1048975200d 1067119200c 1080424800d 1099173600c 1111874400d
  1130623200c 1143324000d 1162072800c 1174773600d 1193522400c 1206828000d 1224972000c
  1238277600d 1256421600c 1269727200d 1288476000c 1301176800d 1319925600c
"

end DynamicContent.Calendar.ZoneTable
