/-
# Zones of the oceans, of Australia and of Antarctica, and of the zones without a place

The time zone data of the oceans, of Australia and of Antarctica, and of the zones without a place, in the form that `Zone.ofRow?` reads.
-/

namespace DynamicContent.Calendar.ZoneTable

/-- The zones of the oceans, of Australia and of Antarctica, and of the zones without a place. -/
def oceans : String := "
Antarctica/Casey
  -00=0 +08=28800 +11=39600
  @ -31536000b 1255802400c 1267714800b 1319738400c 1329843600b 1477065600c 1520701200b
  1538856000c 1552752000b 1570129200c 1583596800b 1601740860c 1615640400b 1633190460c
  1647090000b 1664640060c 1678291200b
Antarctica/Davis
  -00=0 +07=25200 +05=18000
  @ -409190400b -163062000a -28857600b 1255806000c 1268251200b 1319742000c 1329854400b
Antarctica/Macquarie
  -00=0 AEST=36000 AEDT=39600
  @ -2214259200b -1680508800c -1665388800b -1601719200a -687052800b -71136000c -55411200b
  -37267200c -25776000b -5817600c 5673600b 25632000c 37728000b 57686400c 67968000b 89136000c
  100022400b 120585600c 131472000b 152035200c 162921600b 183484800c 194976000b 215539200c
  226425600b 246988800c 257875200b 278438400c 289324800b 309888000c 320774400b 341337600c
  352224000b 372787200c 386092800b 404841600c 417542400b 436291200c 447177600b 467740800c
  478627200b 499190400c 510076800b 530035200c 542736000b 562089600c 574790400b 594144000c
  606240000b 625593600c 637689600b 657043200c 670348800b 686678400c 701798400b 718128000c
  733248000b 749577600c 764697600b 781027200c 796147200b 812476800c 828201600b 844531200c
  859651200b 875980800c 891100800b 907430400c 922550400b 938880000c 954000000b 967305600c
  985449600b 1002384000c 1017504000b 1033833600c 1048953600b 1065283200c 1080403200b
  1096732800c 1111852800b 1128182400c 1143907200b 1159632000c 1174752000b 1191686400c
  1207411200b 1223136000c 1238860800b 1254585600c
  + 2011 10.1.0:-28800c 4.1.0:-28800b
Antarctica/Mawson
  -00=0 +06=21600 +05=18000
  @ -501206400b 1255809600c
Antarctica/Palmer
  -00=0 -03=-10800 -04=-14400 -02=-7200
  @ -157766400b -152658000c -132955200b -121122000c -101419200b -86821200c -71092800b -54766800c
  -39038400b -23317200c -7588800b 128142000d 136605600b 389070000c 403070400b 416372400c
  434520000b 447822000c 466574400b 479271600c 498024000b 510721200c 529473600b 545194800c
  560923200b 574225200c 592372800b 605674800c 624427200b 637124400c 653457600b 668574000c
  687326400b 700628400c 718776000b 732078000c 750225600b 763527600c 781675200b 794977200c
  813729600b 826426800c 845179200b 859690800c 876628800b 889930800c 906868800b 923194800c
  939528000b 952830000c 971582400b 984279600c 1003032000b 1015729200c 1034481600b 1047178800c
  1065931200b 1079233200c 1097380800b 1110682800c 1128830400b 1142132400c 1160884800b
  1173582000c 1192334400b 1206846000c 1223784000b 1237086000c 1255233600b 1270350000c
  1286683200b 1304823600c 1313899200b 1335668400c 1346558400b 1367118000c 1378612800b
  1398567600c 1410062400b 1463281200c 1471147200b
Antarctica/Rothera
  -00=0 -03=-10800
  @ 218246400b
Antarctica/Troll
  -00=0 +00=0 +02=7200
  @ 1108166400b 1111885200c 1130634000b
  + 2006 3.5.0:3600c 10.5.0:3600b
Antarctica/Vostok
  -00=0 +07=25200 +05=18000
  @ -380073600b 760035600a 783648000b 1702839600c
Atlantic/Azores
  LMT=-6160 HMT=-6872 -02=-7200 -01=-3600 +00=0 WET=0 WEST=3600
  @ -2713904240b -1830376800c -1689548400d -1677794400c -1667426400d -1647730800c -1635890400d
  -1616194800c -1604354400d -1584658800c -1572732000d -1553036400c -1541196000d -1521500400c
  -1442444400d -1427670000c -1379286000d -1364770800c -1348441200d -1333321200c -1316386800d
  -1301266800c -1284332400d -1269817200c -1221433200d -1206918000c -1191193200d -1175468400c
  -1127689200d -1111964400c -1096844400d -1080514800c -1063580400d -1049065200c -1033340400d
  -1017615600c -1002495600d -986166000c -969231600d -950482800c -942015600d -922489200c
  -906937200d -891126000c -877302000d -873676800e -864000000d -857948400c -845852400d
  -842832000e -831340800d -825894000c -814402800d -810777600e -799891200d -794444400c
  -782953200d -779328000e -768441600d -762994800c -749084400d -733359600c -717624000d
  -701899200c -686174400d -670449600c -654724800d -639000000c -623275200d -607550400c
  -591825600d -575496000c -559771200d -544046400c -528321600d -512596800c -496872000d
  -481147200c -465422400d -449697600c -433972800d -417643200c -401918400d -386193600c
  -370468800d -354744000c -339019200d -323294400c -307569600d -291844800c -276120000d
  -260395200c -244670400d -228340800c -212616000d -196891200c -181166400d -165441600c
  -149716800d -133992000c -118267200d 386125200e 401850000d 417574800e 433299600d 449024400e
  465354000d 481078800e 496803600d 512528400e 528253200d 543978000e 559702800d 575427600e
  591152400d 606877200e 622602000d 638326800e 654656400d 670381200e 686106000d 701830800e
  717555600d 725421600f 733280400g 740278800e 749005200d 764730000e 780454800d 796179600e
  811904400d
  + 1996 3.5.0:3600e 10.5.0:3600d
Atlantic/Bermuda
  LMT=-15558 BMT=-15558 BST=-11958 AST=-14400 ADT=-10800
  @ -2524506042b -1664307642c -1648932042b -1632080442c -1618692042b -1262281242d -882727200e
  -858538800d -845229600e -825879600d -814384800e -793825200d -782935200e -762375600d
  -713988000e -703710000d -681933600e -672865200d -650484000e -641415600d -618429600e
  -609966000d -586980000e -578516400d -555530400e -546462000d -429127200e -415825200d
  136360800e 152082000d 167810400e 183531600d 199260000e 215586000d 230709600e 247035600d
  262764000e 278485200d 294213600e 309934800d 325663200e 341384400d 357112800e 372834000d
  388562400e 404888400d 420012000e 436338000d 452066400e 467787600d 483516000e 499237200d
  514965600e 530686800d 544600800e 562136400d 576050400e 594190800d 607500000e 625640400d
  638949600e 657090000d 671004000e 688539600d 702453600e 719989200d 733903200e 752043600d
  765352800e 783493200d 796802400e 814942800d 828856800e 846392400d 860306400e 877842000d
  891756000e 909291600d 923205600e 941346000d 954655200e 972795600d 986104800e 1004245200d
  1018159200e 1035694800d 1049608800e 1067144400d 1081058400e 1099198800d 1112508000e
  1130648400d 1143957600e 1162098000d
  + 2007 3.2.0:21600e 11.1.0:18000d
Atlantic/Canary
  LMT=-3696 -01=-3600 WET=0 WEST=3600
  @ -1509663504b -733874400c 323827200d 338950800c 354675600d 370400400c 386125200d 401850000c
  417574800d 433299600c 449024400d 465354000c 481078800d 496803600c 512528400d 528253200c
  543978000d 559702800c 575427600d 591152400c 606877200d 622602000c 638326800d 654656400c
  670381200d 686106000c 701830800d 717555600c 733280400d 749005200c 764730000d 780454800c
  796179600d 811904400c
  + 1996 3.5.0:3600d 10.5.0:3600c
Atlantic/Cape_Verde
  LMT=-5644 -02=-7200 -01=-3600
  @ -1830376800b -862610400c -764118000b 186120000c
Atlantic/Faroe
  LMT=-1624 WET=0 WEST=3600
  @ -1955748776b 354675600c 370400400b 386125200c 401850000b 417574800c 433299600b 449024400c
  465354000b 481078800c 496803600b 512528400c 528253200b 543978000c 559702800b 575427600c
  591152400b 606877200c 622602000b 638326800c 654656400b 670381200c 686106000b 701830800c
  717555600b 733280400c 749005200b 764730000c 780454800b 796179600c 811904400b
  + 1996 3.5.0:3600c 10.5.0:3600b
Atlantic/Madeira
  LMT=-4056 FMT=-4056 -01=-3600 +00=0 +01=3600 WET=0 WEST=3600
  @ -2713906344b -1830380400c -1689552000d -1677798000c -1667430000d -1647734400c -1635894000d
  -1616198400c -1604358000d -1584662400c -1572735600d -1553040000c -1541199600d -1521504000c
  -1442448000d -1427673600c -1379289600d -1364774400c -1348444800d -1333324800c -1316390400d
  -1301270400c -1284336000d -1269820800c -1221436800d -1206921600c -1191196800d -1175472000c
  -1127692800d -1111968000c -1096848000d -1080518400c -1063584000d -1049068800c -1033344000d
  -1017619200c -1002499200d -986169600c -969235200d -950486400c -942019200d -922492800c
  -906940800d -891129600c -877305600d -873680400e -864003600d -857952000c -845856000d
  -842835600e -831344400d -825897600c -814406400d -810781200e -799894800d -794448000c
  -782956800d -779331600e -768445200d -762998400c -749088000d -733363200c -717627600d
  -701902800c -686178000d -670453200c -654728400d -639003600c -623278800d -607554000c
  -591829200d -575499600c -559774800d -544050000c -528325200d -512600400c -496875600d
  -481150800c -465426000d -449701200c -433976400d -417646800c -401922000d -386197200c
  -370472400d -354747600c -339022800d -323298000c -307573200d -291848400c -276123600d
  -260398800c -244674000d -228344400c -212619600d -196894800c -181170000d -165445200c
  -149720400d -133995600c -118270800d -102546000f 386726400g 401846400f 417571200g 433296000f
  449020800g 465350400f 481075200g 496800000f 512524800g 528253200f 543978000g 559702800f
  575427600g 591152400f 606877200g 622602000f 638326800g 654656400f 670381200g 686106000f
  701830800g 717555600f 733280400g 749005200f 764730000g 780454800f 796179600g 811904400f
  + 1996 3.5.0:3600g 10.5.0:3600f
Atlantic/South_Georgia
  LMT=-8768 -02=-7200
  @ -2524512832b
Atlantic/Stanley
  LMT=-13884 SMT=-13884 -04=-14400 -03=-10800 -02=-7200
  @ -2524507716b -1824235716c -1018209600d -1003093200c -986760000d -971643600c -954705600d
  -939589200c -923256000d -908139600c -891806400d -876690000c -860356800d -852066000c
  420609600d 433306800e 452052000d 464151600e 483501600d 514350000c 527054400d 545799600c
  558504000d 577249200c 589953600d 608698800c 621403200d 640753200c 652852800d 672202800c
  684907200d 703652400c 716356800d 735102000c 747806400d 766551600c 779256000d 798001200c
  810705600d 830055600c 842760000d 861505200c 874209600d 892954800c 905659200d 924404400c
  937108800d 955854000c 968558400d 987310800c 999410400d 1019365200c 1030860000d 1050814800c
  1062914400d 1082264400c 1094364000d 1113714000c 1125813600d 1145163600c 1157263200d
  1176613200c 1188712800d 1208667600c 1220767200d 1240117200c 1252216800d 1271566800c
  1283666400d
Australia/Adelaide
  LMT=33260 ACST=32400 ACST=34200 ACDT=37800
  @ -2364110060b -2230189200c -1672558200d -1665387000c -883639800d -876123000c -860398200d
  -844673400c -828343800d -813223800c 57688200d 67969800c 89137800d 100024200c 120587400d
  131473800c 152037000d 162923400c 183486600d 194977800c 215541000d 226427400c 246990600d
  257877000c 278440200d 289326600c 309889800d 320776200c 341339400d 352225800c 372789000d
  384280200c 404843400d 415729800c 436293000d 447179400c 467742600d 478629000c 499192200d
  511288200c 530037000d 542737800c 562091400d 574792200c 594145800d 606241800c 625595400d
  637691400c 657045000d 667931400c 688494600d 701195400c 719944200d 731435400c 751998600d
  764094600c 783448200d 796149000c 814897800d 828203400c 846347400d 859653000c 877797000d
  891102600c 909246600d 922552200c 941301000d 954001800c 972750600d 985451400c 1004200200d
  1017505800c 1035649800d 1048955400c 1067099400d 1080405000c 1099153800d 1111854600c
  1130603400d 1143909000c 1162053000d 1174753800c 1193502600d
  + 2008 10.1.0:-27000d 4.1.0:-27000c
Australia/Brisbane
  LMT=36728 AEST=36000 AEDT=39600
  @ -2366791928b -1672560000c -1665388800b -883641600c -876124800b -860400000c -844675200b
  -828345600c -813225600b 57686400c 67968000b 625593600c 636480000b 657043200c 667929600b
  688492800c 699379200b
Australia/Broken_Hill
  LMT=33948 AEST=36000 ACST=32400 ACST=34200 ACDT=37800
  @ -2364110748b -2314951200c -2230189200d -1672558200e -1665387000d -883639800e -876123000d
  -860398200e -844673400d -828343800e -813223800d 57688200e 67969800d 89137800e 100024200d
  120587400e 131473800d 152037000e 162923400d 183486600e 194977800d 215541000e 226427400d
  246990600e 257877000d 278440200e 289326600d 309889800e 320776200d 341339400e 352225800d
  372789000e 386699400d 404843400e 415729800d 436293000e 447179400d 467742600e 478629000d
  499192200e 511288200d 530037000e 542737800d 562091400e 574792200d 594145800e 606241800d
  625595400e 636481800d 657045000e 667931400d 688494600e 699381000d 719944200e 731435400d
  751998600e 762885000d 783448200e 794334600d 814897800e 828203400d 846347400e 859653000d
  877797000e 891102600d 909246600e 922552200d 941301000e 954001800d 972750600e 985451400d
  1004200200e 1017505800d 1035649800e 1048955400d 1067099400e 1080405000d 1099153800e
  1111854600d 1130603400e 1143909000d 1162053000e 1174753800d 1193502600e
  + 2008 10.1.0:-27000e 4.1.0:-27000d
Australia/Darwin
  LMT=31400 ACST=32400 ACST=34200 ACDT=37800
  @ -2364108200b -2230189200c -1672558200d -1665387000c -883639800d -876123000c -860398200d
  -844673400c -828343800d -813223800c
Australia/Eucla
  LMT=30928 +0845=31500 +0945=35100
  @ -2337928528b -1672555500c -1665384300b -883637100c -876120300b -860395500c -844670700b
  152039700c 162926100b 436295700c 447182100b 690311700c 699383700b 1165079700c 1174756500b
  1193505300c 1206810900b 1224954900c 1238260500b
Australia/Hobart
  LMT=35356 AEST=36000 AEDT=39600
  @ -2345795356b -1680508800c -1665388800b -1646640000c -1635753600b -1615190400c -1604304000b
  -883641600c -876124800b -860400000c -844675200b -828345600c -813225600b -71136000c
  -55411200b -37267200c -25776000b -5817600c 5673600b 25632000c 37728000b 57686400c 67968000b
  89136000c 100022400b 120585600c 131472000b 152035200c 162921600b 183484800c 194976000b
  215539200c 226425600b 246988800c 257875200b 278438400c 289324800b 309888000c 320774400b
  341337600c 352224000b 372787200c 386092800b 404841600c 417542400b 436291200c 447177600b
  467740800c 478627200b 499190400c 510076800b 530035200c 542736000b 562089600c 574790400b
  594144000c 606240000b 625593600c 637689600b 657043200c 670348800b 686678400c 701798400b
  718128000c 733248000b 749577600c 764697600b 781027200c 796147200b 812476800c 828201600b
  844531200c 859651200b 875980800c 891100800b 907430400c 922550400b 938880000c 954000000b
  967305600c 985449600b 1002384000c 1017504000b 1033833600c 1048953600b 1065283200c
  1080403200b 1096732800c 1111852800b 1128182400c 1143907200b 1159632000c 1174752000b
  1191686400c
  + 2008 10.1.0:-28800c 4.1.0:-28800b
Australia/Lindeman
  LMT=35756 AEST=36000 AEDT=39600
  @ -2366790956b -1672560000c -1665388800b -883641600c -876124800b -860400000c -844675200b
  -828345600c -813225600b 57686400c 67968000b 625593600c 636480000b 657043200c 667929600b
  688492800c 699379200b 719942400c 731433600b 751996800c 762883200b
Australia/Lord_Howe
  LMT=38180 AEST=36000 +1030=37800 +1130=41400 +11=39600
  @ -2364114980b 352216800c 372785400d 384273000c 404839800d 415722600c 436289400d 447172200c
  467739000d 478621800c 499188600e 511282800c 530033400e 542732400c 562087800e 574786800c
  594142200e 606236400c 625591800e 636476400c 657041400e 667926000c 688491000e 699375600c
  719940600e 731430000c 751995000e 762879600c 783444600e 794329200c 814894200e 828198000c
  846343800e 859647600c 877793400e 891097200c 909243000e 922546800c 941297400e 953996400c
  967303800e 985446000c 1004196600e 1017500400c 1035646200e 1048950000c 1067095800e
  1080399600c 1099150200e 1111849200c 1130599800e 1143903600c 1162049400e 1174748400c
  1193499000e
  + 2008 10.1.0:-30600e 4.1.0:-32400c
Australia/Melbourne
  LMT=34792 AEST=36000 AEDT=39600
  @ -2364111592b -1672560000c -1665388800b -883641600c -876124800b -860400000c -844675200b
  -828345600c -813225600b 57686400c 67968000b 89136000c 100022400b 120585600c 131472000b
  152035200c 162921600b 183484800c 194976000b 215539200c 226425600b 246988800c 257875200b
  278438400c 289324800b 309888000c 320774400b 341337600c 352224000b 372787200c 384278400b
  404841600c 415728000b 436291200c 447177600b 467740800c 478627200b 499190400c 511286400b
  530035200c 542736000b 561484800c 574790400b 594144000c 606240000b 625593600c 637689600b
  657043200c 667929600b 688492800c 699379200b 719942400c 731433600b 751996800c 762883200b
  783446400c 796147200b 814896000c 828201600b 846345600c 859651200b 877795200c 891100800b
  909244800c 922550400b 941299200c 954000000b 967305600c 985449600b 1004198400c 1017504000b
  1035648000c 1048953600b 1067097600c 1080403200b 1099152000c 1111852800b 1130601600c
  1143907200b 1162051200c 1174752000b 1193500800c
  + 2008 10.1.0:-28800c 4.1.0:-28800b
Australia/Perth
  LMT=27804 AWST=28800 AWDT=32400
  @ -2337925404b -1672552800c -1665381600b -883634400c -876117600b -860392800c -844668000b
  152042400c 162928800b 436298400c 447184800b 690314400c 699386400b 1165082400c 1174759200b
  1193508000c 1206813600b 1224957600c 1238263200b
Australia/Sydney
  LMT=36292 AEST=36000 AEDT=39600
  @ -2364113092b -1672560000c -1665388800b -883641600c -876124800b -860400000c -844675200b
  -828345600c -813225600b 57686400c 67968000b 89136000c 100022400b 120585600c 131472000b
  152035200c 162921600b 183484800c 194976000b 215539200c 226425600b 246988800c 257875200b
  278438400c 289324800b 309888000c 320774400b 341337600c 352224000b 372787200c 386697600b
  404841600c 415728000b 436291200c 447177600b 467740800c 478627200b 499190400c 511286400b
  530035200c 542736000b 562089600c 574790400b 594144000c 606240000b 625593600c 636480000b
  657043200c 667929600b 688492800c 699379200b 719942400c 731433600b 751996800c 762883200b
  783446400c 794332800b 814896000c 828201600b 846345600c 859651200b 877795200c 891100800b
  909244800c 922550400b 941299200c 954000000b 967305600c 985449600b 1004198400c 1017504000b
  1035648000c 1048953600b 1067097600c 1080403200b 1099152000c 1111852800b 1130601600c
  1143907200b 1162051200c 1174752000b 1193500800c
  + 2008 10.1.0:-28800c 4.1.0:-28800b
Etc/GMT
  GMT=0
Etc/GMT+1
  -01=-3600
Etc/GMT+10
  -10=-36000
Etc/GMT+11
  -11=-39600
Etc/GMT+12
  -12=-43200
Etc/GMT+2
  -02=-7200
Etc/GMT+3
  -03=-10800
Etc/GMT+4
  -04=-14400
Etc/GMT+5
  -05=-18000
Etc/GMT+6
  -06=-21600
Etc/GMT+7
  -07=-25200
Etc/GMT+8
  -08=-28800
Etc/GMT+9
  -09=-32400
Etc/GMT-1
  +01=3600
Etc/GMT-10
  +10=36000
Etc/GMT-11
  +11=39600
Etc/GMT-12
  +12=43200
Etc/GMT-13
  +13=46800
Etc/GMT-14
  +14=50400
Etc/GMT-2
  +02=7200
Etc/GMT-3
  +03=10800
Etc/GMT-4
  +04=14400
Etc/GMT-5
  +05=18000
Etc/GMT-6
  +06=21600
Etc/GMT-7
  +07=25200
Etc/GMT-8
  +08=28800
Etc/GMT-9
  +09=32400
Etc/UTC
  UTC=0
Indian/Chagos
  LMT=17380 +05=18000 +06=21600
  @ -1988167780b 820436400c
Indian/Maldives
  LMT=17640 MMT=17640 +05=18000
  @ -2840158440b -315636840c
Indian/Mauritius
  LMT=13800 +04=14400 +05=18000
  @ -1988164200b 403041600c 417034800b 1224972000c 1238274000b
Pacific/Apia
  LMT=45184 LMT=-41216 -1130=-41400 -11=-39600 -10=-36000 +14=50400 +13=46800
  @ -2445424384b -1861878784c -631110600d 1285498800e 1301752800d 1316872800e 1325239200f
  1333202400g 1348927200f 1365256800g 1380376800f 1396706400g 1411826400f 1428156000g
  1443276000f 1459605600g 1474725600f 1491055200g 1506175200f 1522504800g 1538229600f
  1554559200g 1569679200f 1586008800g 1601128800f 1617458400g
Pacific/Auckland
  LMT=41944 NZMT=41400 NZST=45000 NZST=43200 NZDT=46800
  @ -3192435544b -1330335000c -1320057000b -1300699800d -1287396000b -1269250200d -1255946400b
  -1237800600d -1224496800b -1206351000d -1192442400b -1174901400d -1160992800b -1143451800d
  -1125914400b -1112607000d -1094464800b -1081157400d -1063015200b -1049707800d -1031565600b
  -1018258200d -1000116000b -986808600d -968061600b -955359000d -936612000b -923304600d
  152632800e 162309600d 183477600e 194968800d 215532000e 226418400d 246981600e 257868000d
  278431200e 289317600d 309880800e 320767200d 341330400e 352216800d 372780000e 384271200d
  404834400e 415720800d 436284000e 447170400d 467733600e 478620000d 499183200e 510069600d
  530632800e 541519200d 562082400e 573573600d 594136800e 605023200d 623772000e 637682400d
  655221600e 669132000d 686671200e 700581600d 718120800e 732636000d 749570400e 764085600d
  781020000e 795535200d 812469600e 826984800d 844524000e 858434400d 875973600e 889884000d
  907423200e 921938400d 938872800e 953388000d 970322400e 984837600d 1002376800e 1016287200d
  1033826400e 1047736800d 1065276000e 1079791200d 1096725600e 1111240800d 1128175200e
  1142690400d 1159624800e 1174140000d 1191074400e
  + 2008 9.5.0:-36000e 4.1.0:-36000d
Pacific/Bougainville
  LMT=37336 PMMT=35312 +10=36000 +09=32400 +11=39600
  @ -2840178136b -2366790512c -868010400d -768906000c 1419696000e
Pacific/Chatham
  LMT=44028 +1215=44100 +1245=45900 +1345=49500
  @ -3192437628b -757426500c 152632800d 162309600c 183477600d 194968800c 215532000d 226418400c
  246981600d 257868000c 278431200d 289317600c 309880800d 320767200c 341330400d 352216800c
  372780000d 384271200c 404834400d 415720800c 436284000d 447170400c 467733600d 478620000c
  499183200d 510069600c 530632800d 541519200c 562082400d 573573600c 594136800d 605023200c
  623772000d 637682400c 655221600d 669132000c 686671200d 700581600c 718120800d 732636000c
  749570400d 764085600c 781020000d 795535200c 812469600d 826984800c 844524000d 858434400c
  875973600d 889884000c 907423200d 921938400c 938872800d 953388000c 970322400d 984837600c
  1002376800d 1016287200c 1033826400d 1047736800c 1065276000d 1079791200c 1096725600d
  1111240800c 1128175200d 1142690400c 1159624800d 1174140000c 1191074400d
  + 2008 9.5.0:-36000d 4.1.0:-36000c
Pacific/Easter
  LMT=-26248 EMT=-26248 -07=-25200 -06=-21600 -05=-18000
  @ -2524495352b -1178124152c -36619200d -23922000c -3355200d 7527600c 24465600d 37767600c
  55915200d 69217200c 87969600d 100666800c 118209600d 132116400c 150868800d 163566000c
  182318400d 195620400c 213768000d 227070000c 245217600d 258519600c 277272000d 289969200c
  308721600d 321418800c 340171200d 353473200c 371620800d 403070400e 416372400d 434520000e
  447822000d 466574400e 479271600d 498024000e 510721200d 529473600e 545194800d 560923200e
  574225200d 592372800e 605674800d 624427200e 637124400d 653457600e 668574000d 687326400e
  700628400d 718776000e 732078000d 750225600e 763527600d 781675200e 794977200d 813729600e
  826426800d 845179200e 859690800d 876628800e 889930800d 906868800e 923194800d 939528000e
  952830000d 971582400e 984279600d 1003032000e 1015729200d 1034481600e 1047178800d 1065931200e
  1079233200d 1097380800e 1110682800d 1128830400e 1142132400d 1160884800e 1173582000d
  1192334400e 1206846000d 1223784000e 1237086000d 1255233600e 1270350000d 1286683200e
  1304823600d 1313899200e 1335668400d 1346558400e 1367118000d 1378612800e 1398567600d
  1410062400e 1463281200d 1471147200e 1494730800d 1502596800e 1526180400d 1534046400e
  1554606000d 1567915200e 1586055600d 1599364800e 1617505200d 1630814400e 1648954800d
  1662868800e
  + 2023 9.1.6:100800e 4.1.6:97200d
Pacific/Efate
  LMT=40396 +11=39600 +12=43200
  @ -1829387596b 125409600c 133876800b 433256400c 448977600b 464706000c 480427200b 496760400c
  511876800b 528210000c 543931200b 559659600c 575380800b 591109200c 606830400b 622558800c
  638280000b 654008400c 669729600b 686062800c 696340800b 719931600c 727790400b
Pacific/Fakaofo
  LMT=-41096 -11=-39600 +13=46800
  @ -2177411704b 1325242800c
Pacific/Fiji
  LMT=42944 +12=43200 +13=46800
  @ -1709985344b 909842400c 920124000b 941896800c 951573600b 1259416800c 1269698400b 1287842400c
  1299333600b 1319292000c 1327154400b 1350741600c 1358604000b 1382796000c 1390050000b
  1414850400c 1421503200b 1446300000c 1452952800b 1478354400c 1484402400b 1509804000c
  1515852000b 1541253600c 1547301600b 1573308000c 1578751200b 1608386400c 1610805600b
Pacific/Galapagos
  LMT=-21504 -05=-18000 -06=-21600
  @ -1230746496b 504939600c 722930400b 728888400c
Pacific/Gambier
  LMT=-32388 -09=-32400
  @ -1806678012b
Pacific/Guadalcanal
  LMT=38388 +11=39600
  @ -1806748788b
Pacific/Guam
  LMT=-51660 LMT=34740 GST=36000 +09=32400 GDT=39600 ChST=36000
  @ -3944626740b -2177487540c -885549600d -802256400c -331891200e -281610000c -73728000e
  -29415540c -16704000e -10659600c 9907200e 21394800c 41356800e 52844400c 124819200e
  130863600c 201888000e 209487660c 230659200e 241542000c 977493600f
Pacific/Honolulu
  LMT=-37886 HST=-37800 HDT=-34200 HWT=-34200 HPT=-34200 HST=-36000
  @ -2334101314b -1157283000c -1155436200b -880198200d -769395600e -765376200b -712150200f
Pacific/Kanton
  -00=0 -12=-43200 -11=-39600 +13=46800
  @ -1020470400b 307627200c 788871600d
Pacific/Kiritimati
  LMT=-37760 -1040=-38400 -10=-36000 +14=50400
  @ -2177415040b 307622400c 788868000d
Pacific/Kosrae
  LMT=-47284 LMT=39116 +11=39600 +09=32400 +10=36000 +12=43200
  @ -3944631116b -2177491916c -1743678000d -1606813200c -1041418800e -907408800d -770634000c
  -7988400f 915105600c
Pacific/Kwajalein
  LMT=40160 +11=39600 +10=36000 +09=32400 -12=-43200 +12=43200
  @ -2177492960b -1041418800c -907408800d -817462800b -7988400e 745934400f
Pacific/Marquesas
  LMT=-33480 -0930=-34200
  @ -1806676920b
Pacific/Nauru
  LMT=40060 +1130=41400 +09=32400 +12=43200
  @ -1545131260b -862918200c -767350800b 287418600d
Pacific/Niue
  LMT=-40780 -1120=-40800 -11=-39600
  @ -543069620b -173623200c
Pacific/Norfolk
  LMT=40312 +1112=40320 +1130=41400 +1230=45000 +11=39600 +12=43200
  @ -2177493112b -599656320c 152029800d 162916200c 1443882600e 1570287600f
  + 2020 10.1.0:-32400f 4.1.0:-32400e
Pacific/Noumea
  LMT=39948 +11=39600 +12=43200
  @ -1829387148b 250002000c 257342400b 281451600c 288878400b 849366000c 857228400b
Pacific/Pago_Pago
  LMT=45432 LMT=-40968 SST=-39600
  @ -2445424632b -1861879032c
Pacific/Palau
  LMT=-54124 LMT=32276 +09=32400
  @ -3944624276b -2177485076c
Pacific/Pitcairn
  LMT=-31220 -0830=-30600 -08=-28800
  @ -2177421580b 893665800c
Pacific/Port_Moresby
  LMT=35320 PMMT=35312 +10=36000
  @ -2840176120b -2366790512c
Pacific/Rarotonga
  LMT=48056 LMT=-38344 -1030=-37800 -0930=-34200 -10=-36000
  @ -2209555256b -543072056c 279714600d 289387800e 309952800d 320837400e 341402400d 352287000e
  372852000d 384341400e 404906400d 415791000e 436356000d 447240600e 467805600d 478690200e
  499255200d 510139800e 530704800d 541589400e 562154400d 573643800e 594208800d 605093400e
  625658400d 636543000e 657108000d 667992600e
Pacific/Tahiti
  LMT=-35896 -10=-36000
  @ -1806674504b
Pacific/Tarawa
  LMT=41524 +12=43200
  @ -2177494324b
Pacific/Tongatapu
  LMT=44352 +1220=44400 +13=46800 +14=50400
  @ -767189952b -284041200c 939214800d 953384400c 973342800d 980596800c 1004792400d 1012046400c
  1478350800d 1484398800c
"

end DynamicContent.Calendar.ZoneTable
