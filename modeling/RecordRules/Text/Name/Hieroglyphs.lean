/-!
# Character names: hieroglyphs

Names of the characters of hieroglyphs and syllabaries, `U+13000` to `U+16FFF`.  Each line gives a
code point, the beginning of a name, and how the names of the code points from there on end.
-/

set_option autoImplicit false

namespace RecordRules
namespace Text

/-- The names of the characters of hieroglyphs and syllabaries. -/
def hieroglyphNames : String :=
  "13000 EGYPTIAN HIEROGLYPH |A001|A002|A003|A004|A005|A005A|A006|A006A|A006B|A007|A008|A009|A010
1300D EGYPTIAN HIEROGLYPH |A011|A012|A013|A014|A014A|A015|A016|A017|A017A|A018|A019|A020|A021
1301A EGYPTIAN HIEROGLYPH |A022|A023|A024|A025|A026|A027|A028|A029|A030|A031|A032|A032A|A033
13027 EGYPTIAN HIEROGLYPH |A034|A035|A036|A037|A038|A039|A040|A040A|A041|A042|A042A|A043|A043A
13034 EGYPTIAN HIEROGLYPH |A044|A045|A045A|A046|A047|A048|A049|A050|A051|A052|A053|A054|A055
13041 EGYPTIAN HIEROGLYPH |A056|A057|A058|A059|A060|A061|A062|A063|A064|A065|A066|A067|A068|A069
1304F EGYPTIAN HIEROGLYPH |A070|B001|B002|B003|B004|B005|B005A|B006|B007|B008|B009|C001|C002
1305C EGYPTIAN HIEROGLYPH |C002A|C002B|C002C|C003|C004|C005|C006|C007|C008|C009|C010|C010A|C011
13069 EGYPTIAN HIEROGLYPH |C012|C013|C014|C015|C016|C017|C018|C019|C020|C021|C022|C023|C024|D001
13077 EGYPTIAN HIEROGLYPH |D002|D003|D004|D005|D006|D007|D008|D008A|D009|D010|D011|D012|D013
13084 EGYPTIAN HIEROGLYPH |D014|D015|D016|D017|D018|D019|D020|D021|D022|D023|D024|D025|D026|D027
13092 EGYPTIAN HIEROGLYPH |D027A|D028|D029|D030|D031|D031A|D032|D033|D034|D034A|D035|D036|D037
1309F EGYPTIAN HIEROGLYPH |D038|D039|D040|D041|D042|D043|D044|D045|D046|D046A|D047|D048|D048A
130AC EGYPTIAN HIEROGLYPH |D049|D050|D050A|D050B|D050C|D050D|D050E|D050F|D050G|D050H|D050I|D051
130B8 EGYPTIAN HIEROGLYPH |D052|D052A|D053|D054|D054A|D055|D056|D057|D058|D059|D060|D061|D062
130C5 EGYPTIAN HIEROGLYPH |D063|D064|D065|D066|D067|D067A|D067B|D067C|D067D|D067E|D067F|D067G
130D1 EGYPTIAN HIEROGLYPH |D067H|E001|E002|E003|E004|E005|E006|E007|E008|E008A|E009|E009A|E010
130DE EGYPTIAN HIEROGLYPH |E011|E012|E013|E014|E015|E016|E016A|E017|E017A|E018|E019|E020|E020A
130EB EGYPTIAN HIEROGLYPH |E021|E022|E023|E024|E025|E026|E027|E028|E028A|E029|E030|E031|E032
130F8 EGYPTIAN HIEROGLYPH |E033|E034|E034A|E036|E037|E038|F001|F001A|F002|F003|F004|F005|F006
13105 EGYPTIAN HIEROGLYPH |F007|F008|F009|F010|F011|F012|F013|F013A|F014|F015|F016|F017|F018
13112 EGYPTIAN HIEROGLYPH |F019|F020|F021|F021A|F022|F023|F024|F025|F026|F027|F028|F029|F030
1311F EGYPTIAN HIEROGLYPH |F031|F031A|F032|F033|F034|F035|F036|F037|F037A|F038|F038A|F039|F040
1312C EGYPTIAN HIEROGLYPH |F041|F042|F043|F044|F045|F045A|F046|F046A|F047|F047A|F048|F049|F050
13139 EGYPTIAN HIEROGLYPH |F051|F051A|F051B|F051C|F052|F053|G001|G002|G003|G004|G005|G006|G006A
13146 EGYPTIAN HIEROGLYPH |G007|G007A|G007B|G008|G009|G010|G011|G011A|G012|G013|G014|G015|G016
13153 EGYPTIAN HIEROGLYPH |G017|G018|G019|G020|G020A|G021|G022|G023|G024|G025|G026|G026A|G027
13160 EGYPTIAN HIEROGLYPH |G028|G029|G030|G031|G032|G033|G034|G035|G036|G036A|G037|G037A|G038
1316D EGYPTIAN HIEROGLYPH |G039|G040|G041|G042|G043|G043A|G044|G045|G045A|G046|G047|G048|G049
1317A EGYPTIAN HIEROGLYPH |G050|G051|G052|G053|G054|H001|H002|H003|H004|H005|H006|H006A|H007
13187 EGYPTIAN HIEROGLYPH |H008|I001|I002|I003|I004|I005|I005A|I006|I007|I008|I009|I009A|I010
13194 EGYPTIAN HIEROGLYPH |I010A|I011|I011A|I012|I013|I014|I015|K001|K002|K003|K004|K005|K006
131A1 EGYPTIAN HIEROGLYPH |K007|K008|L001|L002|L002A|L003|L004|L005|L006|L006A|L007|L008|M001
131AE EGYPTIAN HIEROGLYPH |M001A|M001B|M002|M003|M003A|M004|M005|M006|M007|M008|M009|M010|M010A
131BB EGYPTIAN HIEROGLYPH |M011|M012|M012A|M012B|M012C|M012D|M012E|M012F|M012G|M012H|M013|M014
131C7 EGYPTIAN HIEROGLYPH |M015|M015A|M016|M016A|M017|M017A|M018|M019|M020|M021|M022|M022A|M023
131D4 EGYPTIAN HIEROGLYPH |M024|M024A|M025|M026|M027|M028|M028A|M029|M030|M031|M031A|M032|M033
131E1 EGYPTIAN HIEROGLYPH |M033A|M033B|M034|M035|M036|M037|M038|M039|M040|M040A|M041|M042|M043
131EE EGYPTIAN HIEROGLYPH |M044|N001|N002|N003|N004|N005|N006|N007|N008|N009|N010|N011|N012|N013
131FC EGYPTIAN HIEROGLYPH |N014|N015|N016|N017|N018|N018A|N018B|N019|N020|N021|N022|N023|N024
13209 EGYPTIAN HIEROGLYPH |N025|N025A|N026|N027|N028|N029|N030|N031|N032|N033|N033A|N034|N034A
13216 EGYPTIAN HIEROGLYPH |N035|N035A|N036|N037|N037A|N038|N039|N040|N041|N042|NL001|NL002|NL003
13223 EGYPTIAN HIEROGLYPH |NL004|NL005|NL005A|NL006|NL007|NL008|NL009|NL010|NL011|NL012|NL013
1322E EGYPTIAN HIEROGLYPH |NL014|NL015|NL016|NL017|NL017A|NL018|NL019|NL020|NU001|NU002|NU003
13239 EGYPTIAN HIEROGLYPH |NU004|NU005|NU006|NU007|NU008|NU009|NU010|NU010A|NU011|NU011A|NU012
13244 EGYPTIAN HIEROGLYPH |NU013|NU014|NU015|NU016|NU017|NU018|NU018A|NU019|NU020|NU021|NU022
1324F EGYPTIAN HIEROGLYPH |NU022A|O001|O001A|O002|O003|O004|O005|O005A|O006|O006A|O006B|O006C
1325B EGYPTIAN HIEROGLYPH |O006D|O006E|O006F|O007|O008|O009|O010|O010A|O010B|O010C|O011|O012
13267 EGYPTIAN HIEROGLYPH |O013|O014|O015|O016|O017|O018|O019|O019A|O020|O020A|O021|O022|O023
13274 EGYPTIAN HIEROGLYPH |O024|O024A|O025|O025A|O026|O027|O028|O029|O029A|O030|O030A|O031|O032
13281 EGYPTIAN HIEROGLYPH |O033|O033A|O034|O035|O036|O036A|O036B|O036C|O036D|O037|O038|O039|O040
1328E EGYPTIAN HIEROGLYPH |O041|O042|O043|O044|O045|O046|O047|O048|O049|O050|O050A|O050B|O051
1329B EGYPTIAN HIEROGLYPH |P001|P001A|P002|P003|P003A|P004|P005|P006|P007|P008|P009|P010|P011
132A8 EGYPTIAN HIEROGLYPH |Q001|Q002|Q003|Q004|Q005|Q006|Q007|R001|R002|R002A|R003|R003A|R003B
132B5 EGYPTIAN HIEROGLYPH |R004|R005|R006|R007|R008|R009|R010|R010A|R011|R012|R013|R014|R015
132C2 EGYPTIAN HIEROGLYPH |R016|R016A|R017|R018|R019|R020|R021|R022|R023|R024|R025|R026|R027
132CF EGYPTIAN HIEROGLYPH |R028|R029|S001|S002|S002A|S003|S004|S005|S006|S006A|S007|S008|S009
132DC EGYPTIAN HIEROGLYPH |S010|S011|S012|S013|S014|S014A|S014B|S015|S016|S017|S017A|S018|S019
132E9 EGYPTIAN HIEROGLYPH |S020|S021|S022|S023|S024|S025|S026|S026A|S026B|S027|S028|S029|S030
132F6 EGYPTIAN HIEROGLYPH |S031|S032|S033|S034|S035|S035A|S036|S037|S038|S039|S040|S041|S042
13303 EGYPTIAN HIEROGLYPH |S043|S044|S045|S046|T001|T002|T003|T003A|T004|T005|T006|T007|T007A
13310 EGYPTIAN HIEROGLYPH |T008|T008A|T009|T009A|T010|T011|T011A|T012|T013|T014|T015|T016|T016A
1331D EGYPTIAN HIEROGLYPH |T017|T018|T019|T020|T021|T022|T023|T024|T025|T026|T027|T028|T029
1332A EGYPTIAN HIEROGLYPH |T030|T031|T032|T032A|T033|T033A|T034|T035|T036|U001|U002|U003|U004
13337 EGYPTIAN HIEROGLYPH |U005|U006|U006A|U006B|U007|U008|U009|U010|U011|U012|U013|U014|U015
13344 EGYPTIAN HIEROGLYPH |U016|U017|U018|U019|U020|U021|U022|U023|U023A|U024|U025|U026|U027
13351 EGYPTIAN HIEROGLYPH |U028|U029|U029A|U030|U031|U032|U032A|U033|U034|U035|U036|U037|U038
1335E EGYPTIAN HIEROGLYPH |U039|U040|U041|U042|V001|V001A|V001B|V001C|V001D|V001E|V001F|V001G
1336A EGYPTIAN HIEROGLYPH |V001H|V001I|V002|V002A|V003|V004|V005|V006|V007|V007A|V007B|V008
13376 EGYPTIAN HIEROGLYPH |V009|V010|V011|V011A|V011B|V011C|V012|V012A|V012B|V013|V014|V015|V016
13383 EGYPTIAN HIEROGLYPH |V017|V018|V019|V020|V020A|V020B|V020C|V020D|V020E|V020F|V020G|V020H
1338F EGYPTIAN HIEROGLYPH |V020I|V020J|V020K|V020L|V021|V022|V023|V023A|V024|V025|V026|V027|V028
1339C EGYPTIAN HIEROGLYPH |V028A|V029|V029A|V030|V030A|V031|V031A|V032|V033|V033A|V034|V035|V036
133A9 EGYPTIAN HIEROGLYPH |V037|V037A|V038|V039|V040|V040A|W001|W002|W003|W003A|W004|W005|W006
133B6 EGYPTIAN HIEROGLYPH |W007|W008|W009|W009A|W010|W010A|W011|W012|W013|W014|W014A|W015|W016
133C3 EGYPTIAN HIEROGLYPH |W017|W017A|W018|W018A|W019|W020|W021|W022|W023|W024|W024A|W025|X001
133D0 EGYPTIAN HIEROGLYPH |X002|X003|X004|X004A|X004B|X005|X006|X006A|X007|X008|X008A|Y001|Y001A
133DD EGYPTIAN HIEROGLYPH |Y002|Y003|Y004|Y005|Y006|Y007|Y008|Z001|Z002|Z002A|Z002B|Z002C|Z002D
133EA EGYPTIAN HIEROGLYPH |Z003|Z003A|Z003B|Z004|Z004A|Z005|Z005A|Z006|Z007|Z008|Z009|Z010|Z011
133F7 EGYPTIAN HIEROGLYPH |Z012|Z013|Z014|Z015|Z015A|Z015B|Z015C|Z015D|Z015E|Z015F|Z015G|Z015H
13403 EGYPTIAN HIEROGLYPH |Z015I|Z016|Z016A|Z016B|Z016C|Z016D|Z016E|Z016F|Z016G|Z016H|AA001
1340E EGYPTIAN HIEROGLYPH |AA002|AA003|AA004|AA005|AA006|AA007|AA007A|AA007B|AA008|AA009|AA010
13419 EGYPTIAN HIEROGLYPH |AA011|AA012|AA013|AA014|AA015|AA016|AA017|AA018|AA019|AA020|AA021
13424 EGYPTIAN HIEROGLYPH |AA022|AA023|AA024|AA025|AA026|AA027|AA028|AA029|AA030|AA031|AA032
13430 EGYPTIAN HIEROGLYPH |VERTICAL JOINER|HORIZONTAL JOINER
13432 EGYPTIAN HIEROGLYPH INSERT AT |TOP START|BOTTOM START|TOP END|BOTTOM END
13436 EGYPTIAN HIEROGLYPH |OVERLAY MIDDLE|BEGIN SEGMENT|END SEGMENT
14400 ANATOLIAN HIEROGLYPH |A001|A002|A003|A004|A005|A006|A007|A008|A009|A010|A010A
1440B ANATOLIAN HIEROGLYPH |A011|A012|A013|A014|A015|A016|A017|A018|A019|A020|A021|A022|A023
14418 ANATOLIAN HIEROGLYPH |A024|A025|A026|A026A|A027|A028|A029|A030|A031|A032|A033|A034|A035
14425 ANATOLIAN HIEROGLYPH |A036|A037|A038|A039|A039A|A040|A041|A041A|A042|A043|A044|A045|A045A
14432 ANATOLIAN HIEROGLYPH |A046|A046A|A046B|A047|A048|A049|A050|A051|A052|A053|A054|A055|A056
1443F ANATOLIAN HIEROGLYPH |A057|A058|A059|A060|A061|A062|A063|A064|A065|A066|A066A|A066B|A066C
1444C ANATOLIAN HIEROGLYPH |A067|A068|A069|A070|A071|A072|A073|A074|A075|A076|A077|A078|A079
14459 ANATOLIAN HIEROGLYPH |A080|A081|A082|A083|A084|A085|A086|A087|A088|A089|A090|A091|A092
14466 ANATOLIAN HIEROGLYPH |A093|A094|A095|A096|A097|A097A|A098|A098A|A099|A100|A100A|A101|A101A
14473 ANATOLIAN HIEROGLYPH |A102|A102A|A103|A104|A104A|A104B|A104C|A105|A105A|A105B|A106|A107
1447F ANATOLIAN HIEROGLYPH |A107A|A107B|A107C|A108|A109|A110|A110A|A110B|A111|A112|A113|A114
1448B ANATOLIAN HIEROGLYPH |A115|A115A|A116|A117|A118|A119|A120|A121|A122|A123|A124|A125|A125A
14498 ANATOLIAN HIEROGLYPH |A126|A127|A128|A129|A130|A131|A132|A133|A134|A135|A135A|A136|A137
144A5 ANATOLIAN HIEROGLYPH |A138|A139|A140|A141|A142|A143|A144|A145|A146|A147|A148|A149|A150
144B2 ANATOLIAN HIEROGLYPH |A151|A152|A153|A154|A155|A156|A157|A158|A159|A160|A161|A162|A163
144BF ANATOLIAN HIEROGLYPH |A164|A165|A166|A167|A168|A169|A170|A171|A172|A173|A174|A175|A176
144CC ANATOLIAN HIEROGLYPH |A177|A178|A179|A180|A181|A182|A183|A184|A185|A186|A187|A188|A189
144D9 ANATOLIAN HIEROGLYPH |A190|A191|A192|A193|A194|A195|A196|A197|A198|A199|A200|A201|A202
144E6 ANATOLIAN HIEROGLYPH |A202A|A202B|A203|A204|A205|A206|A207|A207A|A208|A209|A209A|A210|A211
144F3 ANATOLIAN HIEROGLYPH |A212|A213|A214|A215|A215A|A216|A216A|A217|A218|A219|A220|A221|A222
14500 ANATOLIAN HIEROGLYPH |A223|A224|A225|A226|A227|A227A|A228|A229|A230|A231|A232|A233|A234
1450D ANATOLIAN HIEROGLYPH |A235|A236|A237|A238|A239|A240|A241|A242|A243|A244|A245|A246|A247
1451A ANATOLIAN HIEROGLYPH |A248|A249|A250|A251|A252|A253|A254|A255|A256|A257|A258|A259|A260
14527 ANATOLIAN HIEROGLYPH |A261|A262|A263|A264|A265|A266|A267|A267A|A268|A269|A270|A271|A272
14534 ANATOLIAN HIEROGLYPH |A273|A274|A275|A276|A277|A278|A279|A280|A281|A282|A283|A284|A285
14541 ANATOLIAN HIEROGLYPH |A286|A287|A288|A289|A289A|A290|A291|A292|A293|A294|A294A|A295|A296
1454E ANATOLIAN HIEROGLYPH |A297|A298|A299|A299A|A300|A301|A302|A303|A304|A305|A306|A307|A308
1455B ANATOLIAN HIEROGLYPH |A309|A309A|A310|A311|A312|A313|A314|A315|A316|A317|A318|A319|A320
14568 ANATOLIAN HIEROGLYPH |A321|A322|A323|A324|A325|A326|A327|A328|A329|A329A|A330|A331|A332A
14575 ANATOLIAN HIEROGLYPH |A332B|A332C|A333|A334|A335|A336|A336A|A336B|A336C|A337|A338|A339
14581 ANATOLIAN HIEROGLYPH |A340|A341|A342|A343|A344|A345|A346|A347|A348|A349|A350|A351|A352
1458E ANATOLIAN HIEROGLYPH |A353|A354|A355|A356|A357|A358|A359|A359A|A360|A361|A362|A363|A364
1459B ANATOLIAN HIEROGLYPH |A364A|A365|A366|A367|A368|A368A|A369|A370|A371|A371A|A372|A373|A374
145A8 ANATOLIAN HIEROGLYPH |A375|A376|A377|A378|A379|A380|A381|A381A|A382|A383 RA OR RI|A383A
145B3 ANATOLIAN HIEROGLYPH |A384|A385|A386|A386A|A387|A388|A389|A390|A391|A392|A393 EIGHT|A394
145BF ANATOLIAN HIEROGLYPH |A395|A396|A397|A398|A399|A400|A401|A402|A403|A404|A405|A406|A407
145CC ANATOLIAN HIEROGLYPH |A408|A409|A410 BEGIN LOGOGRAM MARK|A410A END LOGOGRAM MARK|A411|A412
145D2 ANATOLIAN HIEROGLYPH |A413|A414|A415|A416|A417|A418|A419|A420|A421|A422|A423|A424|A425
145DF ANATOLIAN HIEROGLYPH |A426|A427|A428|A429|A430|A431|A432|A433|A434|A435|A436|A437|A438
145EC ANATOLIAN HIEROGLYPH |A439|A440|A441|A442|A443|A444|A445|A446|A447|A448|A449|A450|A450A
145F9 ANATOLIAN HIEROGLYPH |A451|A452|A453|A454|A455|A456|A457|A457A|A458|A459|A460|A461|A462
14606 ANATOLIAN HIEROGLYPH |A463|A464|A465|A466|A467|A468|A469|A470|A471|A472|A473|A474|A475
14613 ANATOLIAN HIEROGLYPH |A476|A477|A478|A479|A480|A481|A482|A483|A484|A485|A486|A487|A488
14620 ANATOLIAN HIEROGLYPH |A489|A490|A491|A492|A493|A494|A495|A496|A497|A501|A502|A503|A504
1462D ANATOLIAN HIEROGLYPH |A505|A506|A507|A508|A509|A510|A511|A512|A513|A514|A515|A516|A517
1463A ANATOLIAN HIEROGLYPH |A518|A519|A520|A521|A522|A523|A524|A525|A526|A527|A528|A529|A530
16800 BAMUM LETTER PHASE-A |NGKUE MFON|GBIEE FON|PON MFON PIPAEMGBIEE|PON MFON PIPAEMBA|NAA MFON
16805 BAMUM LETTER PHASE-A |SHUENSHUET|TITA MFON|NZA MFON|SHINDA PA NJI|PON PA NJI PIPAEMGBIEE
1680A BAMUM LETTER PHASE-A |PON PA NJI PIPAEMBA|MAEMBGBIEE|TU MAEMBA|NGANGU|MAEMVEUX|MANSUAE
16810 BAMUM LETTER PHASE-A |MVEUAENGAM|SEUNYAM|NTOQPEN|KEUKEUTNDA|NKINDI|SUU|NGKUENZEUM|LAPAQ
16818 BAMUM LETTER PHASE-A |LET KUT|NTAP MFAA|MAEKEUP|PASHAE|GHEUAERAE|PAMSHAE|MON NGGEUAET
1681F BAMUM LETTER PHASE-A |NZUN MEUT|U YUQ NAE|GHEUAEGHEUAE|NTAP NTAA|SISA|MGBASA|MEUNJOMNDEUQ
16826 BAMUM LETTER PHASE-A |MOOMPUQ|KAFA|PA LEERAEWA|NDA LEERAEWA|PET|MAEMKPEN|NIKA|PUP
1682E BAMUM LETTER PHASE-A |TUAEP|LUAEP|SONJAM|TEUTEUWEN|MAENYI|KET|NDAANGGEUAET|KUOQ|MOOMEUT
16837 BAMUM LETTER PHASE-A |SHUM|LOMMAE|FIRI|ROM|KPOQ|SOQ|MAP PIEET|SHIRAE|NTAP|SHOQ NSHUT YUM
16841 BAMUM LETTER PHASE-A |NYIT MONGKEUAEQ|PAARAE|NKAARAE|UNKNOWN|NGGEN|MAESI|NJAM|MBANYI
16849 BAMUM LETTER PHASE-A |NYET|TEUAEN|SOT|PAAM|NSHIEE|MAEM|NYI|KAQ|NSHA|VEE|LU|NEN|NAQ|MBAQ
16857 BAMUM LETTER PHASE-B |NSHUET|TU MAEMGBIEE|SIEE|SET TU|LOM NTEUM|MBA MAELEE|KIEEM
1685E BAMUM LETTER PHASE-B |YEURAE|MBAARAE|KAM|PEESHI|YAFU LEERAEWA|LAM NSHUT NYAM|NTIEE SHEUOQ
16865 BAMUM LETTER PHASE-B |NDU NJAA|GHEUGHEUAEM|PIT|TU NSIEE|SHET NJAQ|SHEUAEQTU|MFON TEUAEQ
1686C BAMUM LETTER PHASE-B |MBIT MBAAKET|NYI NTEUM|KEUPUQ|GHEUGHEN|KEUYEUX|LAANAE|PARUM|VEUM
16874 BAMUM LETTER PHASE-B |NGKINDI MVOP|NGGEU MBU|WUAET|SAKEUAE|TAAM|MEUQ|NGGUOQ|NGGUOQ LARGE
1687C BAMUM LETTER PHASE-B |MFIYAQ|SUE|MBEURI|MONTIEEN|NYAEMAE|PUNGAAM|MEUT NGGEET|FEUX
16884 BAMUM LETTER PHASE-B |MBUOQ|FEE|KEUAEM|MA NJEUAENA|MA NJUQA|LET|NGGAAM|NSEN|MA|KIQ|NGOM
1688F BAMUM LETTER PHASE-C NGKUE |MAEMBA
16890 BAMUM LETTER PHASE-C |NZA|YUM|WANGKUOQ|NGGEN|NDEUAEREE|NGKAQ|GHARAE|MBEEKEET|GBAYI
16899 BAMUM LETTER PHASE-C |NYIR MKPARAQ MEUN|NTU MBIT|MBEUM|PIRIEEN|NDOMBU|MBAA CABBAGE-TREE
1689F BAMUM LETTER PHASE-C |KEUSHEUAEP|GHAP|KEUKAQ|YU MUOMAE|NZEUM|MBUE|NSEUAEN|MBIT
168A7 BAMUM LETTER PHASE-C |YEUQ|KPARAQ|KAA|SEUX|NDIDA|TAASHAE|NJUEQ|TITA YUE|SUAET|NGGUAEN NYAM
168B1 BAMUM LETTER PHASE-C |VEUX|NANSANAQ|MA KEUAERI|NTAA|NGGUON|LAP|MBIRIEEN|MGBASAQ|NTEUNGBA
168BA BAMUM LETTER PHASE-C |TEUTEUX|NGGUM|FUE|NDEUT|NSA|NSHAQ|BUNG|VEUAEPEN|MBERAE|RU|NJAEM
168C5 BAMUM LETTER PHASE-C |LAM|TITUAEP|NSUOT NGOM|NJEEEE|KET|NGGU|MAESI|MBUAEM|LU|KUT|NJAM
168D0 BAMUM LETTER PHASE-C |NGOM|WUP|NGGUEET|NSOM|NTEN|KUOP NKAARAE|NSUN|NDAM|MA NSIEE|YAA|NDAP
168DB BAMUM LETTER PHASE-C |SHUEQ|SETFON|MBI|MAEMBA|MBANYI|KEUSEUX|MBEUX|KEUM|MBAA PICKET|YUWOQ
168E5 BAMUM LETTER PHASE-C |NJEUX|MIEE|MUAE|SHIQ|KEN LAW|KEN FATIGUE|NGAQ|NAQ|LIQ|PIN|PEN|TET
168F1 BAMUM LETTER PHASE-D |MBUO|WAP|NJI|MFON|NJIEE|LIEE|NJEUT|NSHEE|NGGAAMAE|NYAM|WUAEN
168FC BAMUM LETTER PHASE-D |NGKUN|SHEE|NGKAP|KEUAETMEUN|TEUT|SHEUAE|NJAP|SUE|KET|YAEMMAE|KUOM
16907 BAMUM LETTER PHASE-D |SAP|MFEUT|NDEUX|MALEERI|MEUT|SEUAEQ|YEN|NJEUAEM|KEUOT MBUAE|NGKEURI
16911 BAMUM LETTER PHASE-D |TU|GHAA|NGKYEE|FEUFEUAET|NDEE|MGBOFUM|LEUAEP|NDON|MONI|MGBEUN
1691B BAMUM LETTER PHASE-D |PUUT|MGBIEE|MFO|LUM|NSIEEP|MBAA|KWAET|NYET|TEUAEN|SOT|YUWOQ|KEUM
16927 BAMUM LETTER PHASE-D |RAEM|TEEEE|NGKEUAEQ|MFEUAE|NSIEET|KEUP|PIP|PEUTAE|NYUE|LET|NGGAAM
16932 BAMUM LETTER PHASE-D |MFIEE|NGGWAEN|YUOM|PAP|YUOP|NDAM|NTEUM|SUAE|KUN|NGGEUX|NGKIEE|TUOT
1693E BAMUM LETTER PHASE-D |MEUN|KUQ|NSUM|TEUN|MAENJET|NGGAP|LEUM|NGGUOM|NSHUT|NJUEQ|GHEUAE|KU
1694A BAMUM LETTER PHASE-D |REN OLD|TAE|TOQ|NYI|RII|LEEEE|MEEEE|M|SUU|MU|SHII|SHEUX|KYEE|NU|SHU
16959 BAMUM LETTER PHASE-D |NTEE|PEE|NI|SHOQ|PUQ|MVOP|LOQ|REN MUCH|TI|NTUU|MBAA SEVEN|SAQ|FAA
16966 BAMUM LETTER PHASE-E |NDAP|TOON|MBEUM|LAP|VOM|LOON|PAA|SOM|RAQ|NSHUOP|NDUN|PUAE
16972 BAMUM LETTER PHASE-E |TAM|NGKA|KPEUX|WUO|SEE|NGGEUAET|PAAM|TOO|KUOP|LOM|NSHIEE|NGOP|MAEM
1697F BAMUM LETTER PHASE-E |NGKEUX|NGOQ|NSHUE|RIMGBA|NJEUX|PEEM|SAA|NGGURAE|MGBA|GHEUX|NGKEUAEM
1698A BAMUM LETTER PHASE-E |NJAEMLI|MAP|LOOT|NGGEEEE|NDIQ|TAEN NTEUM|SET|PUM|NDAA SOFTNESS
16993 BAMUM LETTER PHASE-E |NGGUAESHAE NYAM|YIEE|GHEUN|TUAE|YEUAE|PO|TUMAE|KEUAE|SUAEN|TEUAEQ
1699D BAMUM LETTER PHASE-E |VEUAE|WEUX|LAAM|PU|TAAQ|GHAAMAE|NGEUREUT|SHEUAEQ|MGBEN|MBEE|NZAQ
169A8 BAMUM LETTER PHASE-E |NKOM|GBET|TUM|KUET|YAP|NYI CLEAVER|YIT|MFEUQ|NDIAQ|PIEEQ|YUEQ|LEUAEM
169B4 BAMUM LETTER PHASE-E |FUE|GBEUX|NGKUP|KET|MAE|NGKAAMI|GHET|FA|NTUM|PEUT|YEUM|NGGEUAE
169C0 BAMUM LETTER PHASE-E |NYI BETWEEN|NZUQ|POON|MIEE|FUET|NAE|MUAE|GHEUAE|FU I|MVI|PUAQ|NGKUM
169CC BAMUM LETTER PHASE-E |KUT|PIET|NTAP|YEUAET|NGGUP|PA PEOPLE|FU CALL|FOM|NJEE|A|TOQ|O|I|LAQ
169DA BAMUM LETTER PHASE-E |PA PLURAL|TAA|TAQ|NDAA MY HOUSE|SHIQ|YEUX|NGUAE|YUAEN|YOQ SWIMMING
169E3 BAMUM LETTER PHASE-E |YOQ COVER|YUQ|YUN|KEUX|PEUX|NJEE EPOCH|PUE|WUE|FEE|VEE|LU|MI|REUX
169F0 BAMUM LETTER PHASE-E |RAE|NGUAET|NGA|SHO|SHOQ|FU REMEDY|NA|PI|LOQ|KO|MEN|MA|MAQ|TEU|KI|MON
16A00 BAMUM LETTER PHASE-|E TEN|E FAQ|E GHOM|F KA|F U|F KU|F EE|F REE|F TAE|F NYI
16A0A BAMUM LETTER PHASE-F |LA|RII|RIEE|MEEEE|TAA|NDAA|NJAEM|M|SUU|SHII|SI|SEUX|KYEE|KET|NUAE|NU
16A1A BAMUM LETTER PHASE-F |NJUAE|YOQ|SHU|YA|NSHA|PEUX|NTEE|WUE|PEE|RU|NI|REUX|KEN|NGKWAEN|NGGA
16A29 BAMUM LETTER PHASE-F |SHO|PUAE|FOM|WA|LI|LOQ|KO|MBEN|REN|MA|MO|MBAA|TET|KPA|SAMBA|VUEQ
16A40 MRO LETTER |TA|NGI|YO|MIM|BA|DA|A|PHI|KHAI
16A49 MRO LETTER |HAO|DAI|CHU|KEAAE|OL|MAEM|NIN|PA|OO|O|RO|SHI|THEA|EA|WA|E|KO|LAN|LA|HAI|RI|TEK
16A60 MRO DIGIT |ZERO|ONE|TWO|THREE|FOUR|FIVE|SIX|SEVEN|EIGHT|NINE
16A6E MRO |DANDA|DOUBLE DANDA
16A70 TANGSA LETTER |OZ|OC|OQ|OX|AZ|AC|AQ|AX|VZ|VC|VQ|VX|EZ|EC|EQ|EX|IZ|IC|IQ|IX|UZ|UC|UQ|UX|AWZ
16A89 TANGSA LETTER |AWC|AWQ|AWX|UIZ|UIC|UIQ|UIX|FINAL NG|LONG UEX|SHORT UEZ|SHORT AWX|UEC|UEZ
16A96 TANGSA LETTER |UEQ|UEX|UIUZ|UIUC|UIUQ|UIUX|MZ|MC|MQ|MX|KA|KHA|GA|NGA|SA|YA|WA|PA|NYA|PHA
16AAA TANGSA LETTER |BA|MA|NA|HA|LA|HTA|TA|DA|RA|NHA|SHA|CA|TSA|GHA|HTTA|THA|XA|FA|DHA|CHA|ZA
16AC0 TANGSA DIGIT |ZERO|ONE|TWO|THREE|FOUR|FIVE|SIX|SEVEN|EIGHT|NINE
16AD0 BASSA VAH LETTER |ENNI|KA|SE|FA|MBE|YIE|GAH|DHII
16AD8 BASSA VAH LETTER |KPAH|JO|HWAH|WA|ZO|GBU|DO|CE|UWU|TO|BA|VU|YEIN|PA|WADDA|A|O|OO|U|EE|E|I
16AF0 BASSA VAH COMBINING |HIGH TONE|LOW TONE|MID TONE|LOW-MID TONE|HIGH-LOW TONE
16AF5 BASSA VAH FULL |STOP
16B00 PAHAWH HMONG VOWEL |KEEB|KEEV|KIB|KIV|KAUB|KAUV|KUB|KUV|KEB|KEV|KAIB|KAIV|KOOB
16B0D PAHAWH HMONG VOWEL |KOOV|KAWB|KAWV|KUAB|KUAV|KOB|KOV|KIAB|KIAV|KAB|KAV|KWB|KWV|KAAB|KAAV
16B1C PAHAWH HMONG CONSONANT |VAU|NTSAU|LAU|HAU|NLAU|RAU
16B22 PAHAWH HMONG CONSONANT |NKAU|QHAU|YAU|HLAU|MAU|CHAU|NCHAU|HNAU|PLHAU|NTHAU|NAU|AU|XAU|CAU
16B30 PAHAWH HMONG MARK CIM |TUB|SO|KES|KHAV|SUAM|HOM|TAUM
16B37 PAHAWH HMONG SIGN |VOS THOM|VOS TSHAB CEEB|CIM CHEEM|VOS THIAB|VOS FEEM
16B3C PAHAWH HMONG SIGN XYEEM |NTXIV|RHO|TOV|FAIB
16B40 PAHAWH HMONG SIGN |VOS SEEV|MEEJ SUAB|VOS NRUA|IB YAM|XAUS|CIM TSOV ROG
16B50 PAHAWH HMONG DIGIT |ZERO|ONE|TWO|THREE|FOUR|FIVE|SIX|SEVEN|EIGHT|NINE
16B5B PAHAWH HMONG NUMBER |TENS|HUNDREDS
16B5D PAHAWH HMONG NUMBER |TEN THOUSANDS|MILLIONS|HUNDRED MILLIONS|TEN BILLIONS|TRILLIONS
16B63 PAHAWH HMONG SIGN |VOS LUB|XYOO|HLI|THIRD-STAGE HLI
16B67 PAHAWH HMONG SIGN |ZWJ THAJ|HNUB|NQIG|XIAB|NTUJ|AV|TXHEEJ CEEV|MEEJ TSEEB|TAU|LOS|MUS
16B72 PAHAWH HMONG SIGN CIM |HAIS LUS NTOG NTOG|CUAM TSHOOJ|TXWV|TXWV CHWV|PUB DAWB|NRES TOS
16B7D PAHAWH HMONG CLAN SIGN |TSHEEJ|YEEG|LIS|LAUJ|XYOOJ
16B82 PAHAWH HMONG CLAN SIGN |KOO|HAWJ|MUAS|THOJ|TSAB|PHAB|KHAB|HAM|VAJ|FAJ|YAJ|TSWB|KWM|VWJ
16E40 MEDEFAIDRIN CAPITAL LETTER |M|S|V|W|ATIU
16E45 MEDEFAIDRIN CAPITAL LETTER |Z|KP|P|T|G|F|I|K|A|J|E|B|C|U|YU|L|Q|HP|NY|X|D|OE|N|R|O|AI|Y
16E60 MEDEFAIDRIN SMALL LETTER |M|S|V|W
16E64 MEDEFAIDRIN SMALL LETTER |ATIU|Z|KP|P|T|G|F|I|K|A|J|E|B|C|U|YU|L|Q|HP|NY|X|D|OE|N|R|O|AI|Y
16E80 MEDEFAIDRIN DIGIT |ZERO|ONE|TWO|THREE|FOUR|FIVE|SIX|SEVEN|EIGHT|NINE
16E8A MEDEFAIDRIN NUMBER |TEN|ELEVEN|TWELVE|THIRTEEN|FOURTEEN|FIFTEEN|SIXTEEN|SEVENTEEN|EIGHTEEN
16E93 MEDEFAIDRIN |NUMBER NINETEEN|DIGIT ONE ALTERNATE FORM|DIGIT TWO ALTERNATE FORM
16E96 MEDEFAIDRIN |DIGIT THREE ALTERNATE FORM|COMMA|FULL STOP|SYMBOL AIVA|EXCLAMATION OH
16F00 MIAO LETTER |PA|BA|YI PA|PLA|MA|MHA|ARCHAIC MA|FA|VA|VFA|TA|DA|YI TTA|YI TA
16F0E MIAO LETTER |TTA|DDA|NA|NHA|YI NNA|ARCHAIC NA|NNA|NNHA|LA|LYA|LHA|LHYA|TLHA|DLHA|TLHYA
16F1D MIAO LETTER |DLHYA|KA|GA|YI KA|QA|QGA|NGA|NGHA|ARCHAIC NGA|HA|XA|GHA|GHHA|TSSA|DZZA|NYA
16F2D MIAO LETTER |NYHA|TSHA|DZHA|YI TSHA|YI DZHA|REFORMED TSHA|SHA|SSA|ZHA|ZSHA|TSA|DZA|YI TSA
16F3A MIAO LETTER |SA|ZA|ZSA|ZZA|ZZSA|ARCHAIC ZZA|ZZYA|ZZSYA|WA|AH|HHA|BRI|SYI|DZYI|TE|TSE|RTE
16F4F MIAO |SIGN CONSONANT MODIFIER BAR|LETTER NASALIZATION|SIGN ASPIRATION
16F52 MIAO SIGN REFORMED |VOICING|ASPIRATION
16F54 MIAO VOWEL SIGN |A|AA|AHH|AN|ANG|O|OO|WO|W|E|EN|ENG|OEY|I|IA|IAN
16F64 MIAO VOWEL SIGN |IANG|IO|IE|II|IU|ING|U|UA|UAN|UANG|UU|UEI|UNG|Y|YI|AE|AEE|ERR|ROUNDED ERR
16F77 MIAO VOWEL SIGN |ER|ROUNDED ER|AI|EI|AU|OU|N|NG|UOG|YUI|OG|OER|VW|IG|EA|IONG|UI
16F8F MIAO TONE |RIGHT|TOP RIGHT|ABOVE|BELOW
16F93 MIAO LETTER TONE-|2|3|4|5|6|7|8
16F9A MIAO LETTER REFORMED TONE-|1|2|4|5|6|8
16FE0 |TANGUT ITERATION MARK|NUSHU ITERATION MARK
16FE2 OLD CHINESE |HOOK MARK|ITERATION MARK
16FE4 KHITAN SMALL SCRIPT |FILLER
16FF0 VIETNAMESE ALTERNATE READING MARK |CA|NHAY"

end Text
end RecordRules
