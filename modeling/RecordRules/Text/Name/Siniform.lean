/-!
# Character names: siniform scripts

Names of the characters of scripts in the Chinese manner and kana, `U+17000` to `U+1CFFF`.  Each
line gives a code point, the beginning of a name, and how the names of the code points from there
on end.
-/

set_option autoImplicit false

namespace RecordRules
namespace Text

/-- The names of the characters of scripts in the Chinese manner and kana. -/
def siniformNames : String :=
  "18800 TANGUT COMPONENT-|001|002|003|004|005|006|007|008|009|010|011|012
1880C TANGUT COMPONENT-|013|014|015|016|017|018|019|020|021|022|023|024|025|026|027|028|029|030
1881E TANGUT COMPONENT-|031|032|033|034|035|036|037|038|039|040|041|042|043|044|045|046|047|048
18830 TANGUT COMPONENT-|049|050|051|052|053|054|055|056|057|058|059|060|061|062|063|064|065|066
18842 TANGUT COMPONENT-|067|068|069|070|071|072|073|074|075|076|077|078|079|080|081|082|083|084
18854 TANGUT COMPONENT-|085|086|087|088|089|090|091|092|093|094|095|096|097|098|099|100|101|102
18866 TANGUT COMPONENT-|103|104|105|106|107|108|109|110|111|112|113|114|115|116|117|118|119|120
18878 TANGUT COMPONENT-|121|122|123|124|125|126|127|128|129|130|131|132|133|134|135|136|137|138
1888A TANGUT COMPONENT-|139|140|141|142|143|144|145|146|147|148|149|150|151|152|153|154|155|156
1889C TANGUT COMPONENT-|157|158|159|160|161|162|163|164|165|166|167|168|169|170|171|172|173|174
188AE TANGUT COMPONENT-|175|176|177|178|179|180|181|182|183|184|185|186|187|188|189|190|191|192
188C0 TANGUT COMPONENT-|193|194|195|196|197|198|199|200|201|202|203|204|205|206|207|208|209|210
188D2 TANGUT COMPONENT-|211|212|213|214|215|216|217|218|219|220|221|222|223|224|225|226|227|228
188E4 TANGUT COMPONENT-|229|230|231|232|233|234|235|236|237|238|239|240|241|242|243|244|245|246
188F6 TANGUT COMPONENT-|247|248|249|250|251|252|253|254|255|256|257|258|259|260|261|262|263|264
18908 TANGUT COMPONENT-|265|266|267|268|269|270|271|272|273|274|275|276|277|278|279|280|281|282
1891A TANGUT COMPONENT-|283|284|285|286|287|288|289|290|291|292|293|294|295|296|297|298|299|300
1892C TANGUT COMPONENT-|301|302|303|304|305|306|307|308|309|310|311|312|313|314|315|316|317|318
1893E TANGUT COMPONENT-|319|320|321|322|323|324|325|326|327|328|329|330|331|332|333|334|335|336
18950 TANGUT COMPONENT-|337|338|339|340|341|342|343|344|345|346|347|348|349|350|351|352|353|354
18962 TANGUT COMPONENT-|355|356|357|358|359|360|361|362|363|364|365|366|367|368|369|370|371|372
18974 TANGUT COMPONENT-|373|374|375|376|377|378|379|380|381|382|383|384|385|386|387|388|389|390
18986 TANGUT COMPONENT-|391|392|393|394|395|396|397|398|399|400|401|402|403|404|405|406|407|408
18998 TANGUT COMPONENT-|409|410|411|412|413|414|415|416|417|418|419|420|421|422|423|424|425|426
189AA TANGUT COMPONENT-|427|428|429|430|431|432|433|434|435|436|437|438|439|440|441|442|443|444
189BC TANGUT COMPONENT-|445|446|447|448|449|450|451|452|453|454|455|456|457|458|459|460|461|462
189CE TANGUT COMPONENT-|463|464|465|466|467|468|469|470|471|472|473|474|475|476|477|478|479|480
189E0 TANGUT COMPONENT-|481|482|483|484|485|486|487|488|489|490|491|492|493|494|495|496|497|498
189F2 TANGUT COMPONENT-|499|500|501|502|503|504|505|506|507|508|509|510|511|512|513|514|515|516
18A04 TANGUT COMPONENT-|517|518|519|520|521|522|523|524|525|526|527|528|529|530|531|532|533|534
18A16 TANGUT COMPONENT-|535|536|537|538|539|540|541|542|543|544|545|546|547|548|549|550|551|552
18A28 TANGUT COMPONENT-|553|554|555|556|557|558|559|560|561|562|563|564|565|566|567|568|569|570
18A3A TANGUT COMPONENT-|571|572|573|574|575|576|577|578|579|580|581|582|583|584|585|586|587|588
18A4C TANGUT COMPONENT-|589|590|591|592|593|594|595|596|597|598|599|600|601|602|603|604|605|606
18A5E TANGUT COMPONENT-|607|608|609|610|611|612|613|614|615|616|617|618|619|620|621|622|623|624
18A70 TANGUT COMPONENT-|625|626|627|628|629|630|631|632|633|634|635|636|637|638|639|640|641|642
18A82 TANGUT COMPONENT-|643|644|645|646|647|648|649|650|651|652|653|654|655|656|657|658|659|660
18A94 TANGUT COMPONENT-|661|662|663|664|665|666|667|668|669|670|671|672|673|674|675|676|677|678
18AA6 TANGUT COMPONENT-|679|680|681|682|683|684|685|686|687|688|689|690|691|692|693|694|695|696
18AB8 TANGUT COMPONENT-|697|698|699|700|701|702|703|704|705|706|707|708|709|710|711|712|713|714
18ACA TANGUT COMPONENT-|715|716|717|718|719|720|721|722|723|724|725|726|727|728|729|730|731|732
18ADC TANGUT COMPONENT-|733|734|735|736|737|738|739|740|741|742|743|744|745|746|747|748|749|750
18AEE TANGUT COMPONENT-|751|752|753|754|755|756|757|758|759|760|761|762|763|764|765|766|767|768
1AFF0 KATAKANA LETTER MINNAN TONE-|2|3|4|5
1AFF5 KATAKANA LETTER MINNAN TONE-|7|8
1AFF7 KATAKANA LETTER MINNAN NASALIZED TONE-|1|2|3|4|5
1AFFD KATAKANA LETTER MINNAN NASALIZED TONE-|7|8
1B000 |KATAKANA LETTER ARCHAIC E|HIRAGANA LETTER ARCHAIC YE
1B002 HENTAIGANA LETTER A-|1|2|3|WO
1B006 HENTAIGANA LETTER |I-1|I-2|I-3|I-4|U-1|U-2|U-3|U-4|U-5|E-2|E-3|E-4|E-5|E-6|O-1|O-2|O-3
1B017 HENTAIGANA LETTER KA-|1|2|3|4|5|6|7|8|9|10|11|KE
1B023 HENTAIGANA LETTER KI-|1|2|3|4|5|6|7|8
1B02B HENTAIGANA LETTER KU-|1|2|3|4|5|6|7
1B032 HENTAIGANA LETTER |KE-1|KE-2|KE-3|KE-4|KE-5|KE-6|KO-1|KO-2|KO-3|KO-KI
1B03C HENTAIGANA LETTER SA-|1|2|3|4|5|6|7|8
1B044 HENTAIGANA LETTER SI-|1|2|3|4|5|6
1B04A HENTAIGANA LETTER SU-|1|2|3|4|5|6|7|8
1B052 HENTAIGANA LETTER |SE-1|SE-2|SE-3|SE-4|SE-5|SO-1|SO-2|SO-3|SO-4|SO-5|SO-6|SO-7|TA-1|TA-2
1B060 HENTAIGANA LETTER |TA-3|TA-4|TI-1|TI-2|TI-3|TI-4|TI-5|TI-6|TI-7|TU-1|TU-2|TU-3|TU-4|TU-TO
1B06E HENTAIGANA LETTER TE-|1|2|3|4|5|6|7|8|9
1B077 HENTAIGANA LETTER TO-|1|2|3|4|5|6|RA
1B07E HENTAIGANA LETTER NA-|1|2|3|4|5|6|7|8|9
1B087 HENTAIGANA LETTER NI-|1|2|3|4|5|6|7|TE
1B08F HENTAIGANA LETTER |NU-1|NU-2|NU-3|NE-1|NE-2|NE-3|NE-4|NE-5|NE-6|NE-KO
1B099 HENTAIGANA LETTER NO-|1|2|3|4|5
1B09E HENTAIGANA LETTER HA-|1|2|3|4|5|6|7|8|9|10|11
1B0A9 HENTAIGANA LETTER HI-|1|2|3|4|5|6|7
1B0B0 HENTAIGANA LETTER |HU-1|HU-2|HU-3|HE-1|HE-2|HE-3|HE-4|HE-5|HE-6|HE-7
1B0BA HENTAIGANA LETTER HO-|1|2|3|4|5|6|7|8
1B0C2 HENTAIGANA LETTER MA-|1|2|3|4|5|6|7
1B0C9 HENTAIGANA LETTER MI-|1|2|3|4|5|6|7
1B0D0 HENTAIGANA LETTER |MU-1|MU-2|MU-3|MU-4|ME-1|ME-2|ME-MA|MO-1|MO-2|MO-3|MO-4|MO-5|MO-6
1B0DD HENTAIGANA LETTER YA-|1|2|3|4|5|YO
1B0E3 HENTAIGANA LETTER |YU-1|YU-2|YU-3|YU-4|YO-1|YO-2|YO-3|YO-4|YO-5|YO-6|RA-1|RA-2|RA-3|RA-4
1B0F1 HENTAIGANA LETTER RI-|1|2|3|4|5|6|7
1B0F8 HENTAIGANA LETTER |RU-1|RU-2|RU-3|RU-4|RU-5|RU-6|RE-1|RE-2|RE-3|RE-4|RO-1|RO-2|RO-3
1B105 HENTAIGANA LETTER |RO-4|RO-5|RO-6|WA-1|WA-2|WA-3|WA-4|WA-5|WI-1|WI-2|WI-3|WI-4|WI-5|WE-1
1B113 HENTAIGANA LETTER |WE-2|WE-3|WE-4|WO-1|WO-2|WO-3|WO-4|WO-5|WO-6|WO-7|N-MU-MO-1|N-MU-MO-2
1B11F HIRAGANA LETTER ARCHAIC |WU
1B120 KATAKANA LETTER ARCHAIC |YI|YE|WU
1B150 HIRAGANA LETTER SMALL |WI|WE|WO
1B164 KATAKANA LETTER SMALL |WI|WE|WO|N
1BC00 DUPLOYAN LETTER |H|X|P|T|F|K|L|B|D|V|G|R|P N|D S|F N|K M|R S|TH|SLOAN DH|DH|KK
1BC15 DUPLOYAN LETTER |SLOAN J|HL|LH|RH|M|N|J|S|M N|N M|J M|S J|M WITH DOT|N WITH DOT|J WITH DOT
1BC24 DUPLOYAN LETTER |J WITH DOTS INSIDE AND ABOVE|S WITH DOT|S WITH DOT BELOW|M S|N S|J S
1BC2A DUPLOYAN LETTER |S S|M N S|N M S|J M S|S J S|J S WITH DOT|J N|J N S|S T|S T R|S P|S P R
1BC36 DUPLOYAN LETTER |T S|T R S|W|WH|W R|S N|S M|K R S|G R S|S K|S K R|A|SLOAN OW|OA|O|AOU
1BC46 DUPLOYAN LETTER |I|E|IE|SHORT I|UI|EE|SLOAN EH|ROMANIAN I|SLOAN EE|LONG I|YE|U|EU|XW|U N
1BC55 DUPLOYAN LETTER |LONG U|ROMANIAN U|UH|SLOAN U|OOH|OW|OU|WA|WO|WI|WEI|WOW|NASAL U|NASAL O
1BC63 DUPLOYAN LETTER |NASAL I|NASAL A|PERNIN AN|PERNIN AM|SLOAN EN|SLOAN AN|SLOAN ON|VOCALIC M
1BC70 DUPLOYAN AFFIX LEFT HORIZONTAL |SECANT
1BC71 DUPLOYAN AFFIX |MID HORIZONTAL SECANT|RIGHT HORIZONTAL SECANT|LOW VERTICAL SECANT
1BC74 DUPLOYAN AFFIX |MID VERTICAL SECANT|HIGH VERTICAL SECANT|ATTACHED SECANT
1BC77 DUPLOYAN AFFIX ATTACHED |LEFT-TO-RIGHT SECANT|TANGENT|TAIL|E HOOK|I HOOK|TANGENT HOOK
1BC80 DUPLOYAN AFFIX HIGH |ACUTE|TIGHT ACUTE|GRAVE|LONG GRAVE|DOT|CIRCLE|LINE|WAVE|VERTICAL
1BC90 DUPLOYAN AFFIX LOW |ACUTE|TIGHT ACUTE|GRAVE|LONG GRAVE|DOT|CIRCLE|LINE|WAVE|VERTICAL|ARROW
1BC9C DUPLOYAN SIGN O WITH |CROSS
1BC9D DUPLOYAN |THICK LETTER SELECTOR|DOUBLE MARK|PUNCTUATION CHINOOK FULL STOP
1BCA0 SHORTHAND FORMAT |LETTER OVERLAP|CONTINUING OVERLAP|DOWN STEP|UP STEP
1CF00 ZNAMENNY COMBINING MARK |GORAZDO NIZKO S KRYZHEM ON LEFT|NIZKO S KRYZHEM ON LEFT
1CF02 ZNAMENNY COMBINING MARK |TSATA ON LEFT|GORAZDO NIZKO ON LEFT|NIZKO ON LEFT|SREDNE ON LEFT
1CF06 ZNAMENNY COMBINING MARK |MALO POVYSHE ON LEFT|POVYSHE ON LEFT|VYSOKO ON LEFT
1CF09 ZNAMENNY COMBINING MARK |MALO POVYSHE S KHOKHLOM ON LEFT|POVYSHE S KHOKHLOM ON LEFT
1CF0B ZNAMENNY COMBINING MARK |VYSOKO S KHOKHLOM ON LEFT|GORAZDO NIZKO S KRYZHEM ON RIGHT
1CF0D ZNAMENNY COMBINING MARK |NIZKO S KRYZHEM ON RIGHT|TSATA ON RIGHT|GORAZDO NIZKO ON RIGHT
1CF10 ZNAMENNY COMBINING MARK |NIZKO ON RIGHT|SREDNE ON RIGHT|MALO POVYSHE ON RIGHT
1CF13 ZNAMENNY COMBINING MARK |POVYSHE ON RIGHT|VYSOKO ON RIGHT|MALO POVYSHE S KHOKHLOM ON RIGHT
1CF16 ZNAMENNY COMBINING MARK |POVYSHE S KHOKHLOM ON RIGHT|VYSOKO S KHOKHLOM ON RIGHT
1CF18 ZNAMENNY COMBINING MARK |TSATA S KRYZHEM|MALO POVYSHE S KRYZHEM|STRANNO MALO POVYSHE
1CF1B ZNAMENNY COMBINING MARK POVYSHE |S KRYZHEM|STRANNO
1CF1D ZNAMENNY COMBINING MARK |VYSOKO S KRYZHEM|MALO POVYSHE STRANNO
1CF1F ZNAMENNY COMBINING MARK |GORAZDO VYSOKO|ZELO|ON|RAVNO|TIKHAYA|BORZAYA|UDARKA
1CF26 ZNAMENNY COMBINING MARK |PODVERTKA|LOMKA|KUPNAYA|KACHKA|ZEVOK|SKOBA|RAZSEKA|KRYZH ON LEFT
1CF30 ZNAMENNY COMBINING TONAL RANGE MARK |MRACHNO|SVETLO|TRESVETLO
1CF33 ZNAMENNY COMBINING MARK |ZADERZHKA|DEMESTVENNY ZADERZHKA
1CF35 ZNAMENNY COMBINING MARK |OTSECHKA|PODCHASHIE|PODCHASHIE WITH VERTICAL STROKE|CHASHKA
1CF39 ZNAMENNY COMBINING MARK |CHASHKA POLNAYA|OBLACHKO|SOROCHYA NOZHKA|TOCHKA|DVOETOCHIE
1CF3E ZNAMENNY COMBINING ATTACHING VERTICAL |OMET
1CF3F ZNAMENNY COMBINING |MARK CURVED OMET|MARK KRYZH|LOWER TONAL RANGE INDICATOR
1CF42 ZNAMENNY PRIZNAK MODIFIER |LEVEL-2|LEVEL-3|DIRECTION FLIP|KRYZH|ROG
1CF50 ZNAMENNY NEUME |KRYUK|KRYUK TIKHY|PARAKLIT|DVA V CHELNU|KLYUCH
1CF55 ZNAMENNY NEUME |ZANOZHEK|STOPITSA|STOPITSA S OCHKOM|PEREVODKA|PEREVODKA NEPOSTOYANNAYA
1CF5A ZNAMENNY NEUME |STOPITSA WITH SOROCHYA NOZHKA|CHELYUSTKA|PALKA|ZAPYATAYA
1CF5E ZNAMENNY NEUME GOLUBCHIK |BORZY|TIKHY|MRACHNY|SVETLY|TRESVETLY
1CF63 ZNAMENNY NEUME VRAKHIYA |PROSTAYA|MRACHNAYA|SVETLAYA|TRESVETLAYA
1CF67 ZNAMENNY NEUME VRAKHIYA KLYUCHEVAYA |PROSTAYA|MRACHNAYA|SVETLAYA|TRESVETLAYA
1CF6B ZNAMENNY NEUME |DOUBLE ZAPYATAYA|REVERSED CHELYUSTKA|DERBITSA|KHAMILO|CHASHKA|PODCHASHIE
1CF71 ZNAMENNY NEUME SKAMEYTSA |MRACHNAYA|SVETLAYA|TRESVETLAYA|TIKHAYA
1CF75 ZNAMENNY NEUME DEMESTVENNY |KLYUCH
1CF76 ZNAMENNY NEUME SKAMEYTSA |KLYUCHEVAYA SVETLAYA|KLYUCHENEPOSTOYANNAYA|KLYUCHEVAYA TIKHAYA
1CF79 ZNAMENNY NEUME SKAMEYTSA DVOECHELNAYA |PROSTAYA|SVETLAYA|NEPOSTOYANNAYA|KLYUCHEVAYA
1CF7D ZNAMENNY NEUME |SLOZHITIE|SLOZHITIE S ZAPYATOY|SLOZHITIE ZAKRYTOE
1CF80 ZNAMENNY NEUME |SLOZHITIE S KRYZHEM|KRYZH|ROG|FITA|KOBYLA|ZMEYTSA|STATYA
1CF87 ZNAMENNY NEUME STATYA S |ZAPYATOY|KRYZHEM|ZAPYATOY I KRYZHEM|KRYZHEM I ZAPYATOY
1CF8B ZNAMENNY NEUME STATYA |ZAKRYTAYA|ZAKRYTAYA S ZAPYATOY
1CF8D ZNAMENNY NEUME STATYA S |ROGOM|DVUMYA ZAPYATYMI|ZAPYATOY I PODCHASHIEM
1CF90 ZNAMENNY NEUME |POLKULIZMY|STATYA NEPOSTOYANNAYA|STRELA PROSTAYA
1CF93 ZNAMENNY NEUME STRELA |MRACHNOTIKHAYA|KRYZHEVAYA|POLUPOVODNAYA|POVODNAYA|NEPOSTOYANNAYA
1CF98 ZNAMENNY NEUME STRELA |KLYUCHEPOVODNAYA|KLYUCHENEPOSTOYANNAYA|TIKHAYA PUTNAYA|DVOECHELNAYA
1CF9C ZNAMENNY NEUME STRELA |DVOECHELNOKRYZHEVAYA|DVOECHELNOPOVODNAYA|DVOECHELNAYA KLYUCHEVAYA
1CF9F ZNAMENNY NEUME STRELA |DVOECHELNOPOVODNAYA KLYUCHEVAYA|GROMNAYA WITH SINGLE ZAPYATAYA
1CFA1 ZNAMENNY NEUME STRELA |GROMOPOVODNAYA WITH SINGLE ZAPYATAYA|GROMNAYA
1CFA3 ZNAMENNY NEUME STRELA |GROMOPOVODNAYA|GROMOPOVODNAYA WITH DOUBLE ZAPYATAYA|GROMOKRYZHEVAYA
1CFA6 ZNAMENNY NEUME |STRELA GROMOKRYZHEVAYA POVODNAYA|MECHIK
1CFA8 ZNAMENNY NEUME MECHIK |POVODNY|KLYUCHEVOY|KLYUCHEPOVODNY|KLYUCHENEPOSTOYANNY
1CFAC ZNAMENNY NEUME |STRELA TRYASOGLASNAYA|STRELA TRYASOPOVODNAYA|STRELA TRYASOSTRELNAYA|OSOKA
1CFB0 ZNAMENNY NEUME OSOKA |SVETLAYA|TRESVETLAYA|KRYUKOVAYA SVETLAYA|KLYUCHEVAYA SVETLAYA
1CFB4 ZNAMENNY NEUME |OSOKA KLYUCHEVAYA NEPOSTOYANNAYA|STRELA KRYUKOVAYA
1CFB6 ZNAMENNY NEUME STRELA KRYUKOVAYA |POVODNAYA|GROMNAYA WITH SINGLE ZAPYATAYA
1CFB8 ZNAMENNY NEUME STRELA KRYUKOVAYA |GROMOPOVODNAYA WITH SINGLE ZAPYATAYA|GROMNAYA
1CFBA ZNAMENNY NEUME STRELA KRYUKOVAYA |GROMOPOVODNAYA|GROMOPOVODNAYA WITH DOUBLE ZAPYATAYA
1CFBC ZNAMENNY NEUME STRELA KRYUKOVAYA |GROMOKRYZHEVAYA|GROMOKRYZHEVAYA POVODNAYA|TRYASKA
1CFBF ZNAMENNY NEUME |KUFISMA|OBLAKO|DUDA|NEMKA|PAUK"

end Text
end RecordRules
