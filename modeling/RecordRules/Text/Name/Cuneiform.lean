/-!
# Character names: cuneiform

Names of the characters of cuneiform, `U+12000` to `U+12FFF`.  Each line gives a code point, the
beginning of a name, and how the names of the code points from there on end.
-/

set_option autoImplicit false

namespace RecordRules
namespace Text

/-- The names of the characters of cuneiform. -/
def cuneiformNames : String :=
  "12000 CUNEIFORM SIGN |A
12001 CUNEIFORM SIGN A TIMES |A|BAD|GAN2 TENU|HA|IGI|LAGAR GUNU|MUSH|SAG
12009 CUNEIFORM SIGN |A2|AB
1200B CUNEIFORM SIGN AB TIMES |ASH2|DUN3 GUNU|GAL|GAN2 TENU|HA|IGI GUNU|IMIN|LAGAB|SHESH
12014 CUNEIFORM SIGN |AB TIMES U PLUS U PLUS U|AB GUNU|AB2
12017 CUNEIFORM SIGN AB2 TIMES |BALAG|GAN2 TENU|ME PLUS EN|SHA3|TAK4
1201C CUNEIFORM SIGN |AD|AK|AK TIMES ERIN2|AK TIMES SHITA PLUS GISH|AL
12021 CUNEIFORM SIGN AL TIMES |AL|DIM2|GISH|HA|KAD3|KI|SHE|USH
12029 CUNEIFORM SIGN |ALAN|ALEPH|AMAR|AMAR TIMES SHE|AN|AN OVER AN|AN THREE TIMES
12030 CUNEIFORM SIGN AN PLUS NAGA |OPPOSING AN PLUS NAGA|SQUARED
12032 CUNEIFORM SIGN |ANSHE|APIN|ARAD|ARAD TIMES KUR|ARKAB|ASAL2|ASH
12039 CUNEIFORM SIGN ASH |ZIDA TENU|KABA TENU|OVER ASH TUG2 OVER TUG2 TUG2 OVER TUG2 PAP
1203C CUNEIFORM SIGN ASH OVER ASH OVER |ASH|ASH CROSSING ASH OVER ASH OVER ASH
1203E CUNEIFORM SIGN |ASH2|ASHGAB|BA|BAD|BAG3|BAHAR2|BAL|BAL OVER BAL|BALAG
12047 CUNEIFORM SIGN |BAR|BARA2|BI|BI TIMES A|BI TIMES GAR|BI TIMES IGI GUNU|BU|BU OVER BU AB
1204F CUNEIFORM SIGN |BU OVER BU UN|BU CROSSING BU|BULUG|BULUG OVER BULUG|BUR|BUR2|DA|DAG
12057 CUNEIFORM SIGN DAG KISIM5 TIMES |A PLUS MASH|AMAR|BALAG|BI|GA|GA PLUS MASH
1205D CUNEIFORM SIGN DAG KISIM5 TIMES |GI|GIR2|GUD|HA|IR|IR PLUS LU|KAK|LA|LU|LU PLUS MASH2
12067 CUNEIFORM SIGN DAG KISIM5 TIMES |LUM|NE|PAP PLUS PAP|SI|TAK4|U2 PLUS GIR2|USH
1206E CUNEIFORM SIGN |DAM|DAR|DARA3|DARA4|DI
12073 CUNEIFORM SIGN |DIB|DIM|DIM TIMES SHE|DIM2|DIN|DIN KASKAL U GUNU DISH|DISH|DU|DU OVER DU
1207C CUNEIFORM SIGN |DU GUNU|DU SHESHIG|DUB|DUB TIMES ESH2|DUB2|DUG|DUGUD|DUH|DUN|DUN3
12086 CUNEIFORM SIGN |DUN3 GUNU|DUN3 GUNU GUNU|DUN4|DUR2|E|E TIMES PAP|E OVER E NUN OVER NUN|E2
1208E CUNEIFORM SIGN E2 TIMES |A PLUS HA PLUS DA|GAR|MI|SAL|SHE|U
12094 CUNEIFORM SIGN |EDIN|EGIR|EL|EN
12098 CUNEIFORM SIGN EN |TIMES GAN2|TIMES GAN2 TENU|TIMES ME|CROSSING EN|OPPOSING EN|SQUARED
1209E CUNEIFORM SIGN |EREN|ERIN2|ESH2|EZEN|EZEN TIMES A|EZEN TIMES A PLUS LAL
120A4 CUNEIFORM SIGN EZEN TIMES |A PLUS LAL TIMES LAL|AN|BAD|DUN3 GUNU|DUN3 GUNU GUNU|HA|HA GUNU
120AB CUNEIFORM SIGN EZEN TIMES |IGI GUNU|KASKAL|KASKAL SQUARED|KU3|LA|LAL TIMES LAL|LI|LU|U2|UD
120B5 CUNEIFORM SIGN |GA|GA GUNU|GA2|GA2 TIMES A PLUS DA PLUS HA
120B9 CUNEIFORM SIGN GA2 TIMES |A PLUS HA|A PLUS IGI|AB2 TENU PLUS TAB|AN|ASH|ASH2 PLUS GAL
120BF CUNEIFORM SIGN GA2 TIMES |BAD|BAR PLUS RA|BUR|BUR PLUS RA|DA|DI|DIM TIMES SHE
120C6 CUNEIFORM SIGN GA2 TIMES |DUB|EL|EL PLUS LA|EN|EN TIMES GAN2 TENU|GAN2 TENU|GAR|GI
120CE CUNEIFORM SIGN GA2 TIMES |GI4|GI4 PLUS A|GIR2 PLUS SU|HA PLUS LU PLUS ESH2|HAL|HAL PLUS LA
120D4 CUNEIFORM SIGN GA2 TIMES |HI PLUS LI|HUB2|IGI GUNU|ISH PLUS HU PLUS ASH|KAK|KASKAL
120DA CUNEIFORM SIGN GA2 TIMES |KID|KID PLUS LAL|KU3 PLUS AN|LA|ME PLUS EN|MI|NUN|NUN OVER NUN
120E2 CUNEIFORM SIGN GA2 TIMES |PA|SAL|SAR|SHE|SHE PLUS TUR|SHID|SUM|TAK4|U|UD|UD PLUS DU
120ED CUNEIFORM SIGN |GA2 OVER GA2|GABA|GABA CROSSING GABA|GAD|GAD OVER GAD GAR OVER GAR
120F2 CUNEIFORM SIGN |GAL|GAL GAD OVER GAD GAR OVER GAR|GALAM|GAM|GAN|GAN2
120F8 CUNEIFORM SIGN GAN2 |TENU|OVER GAN2|CROSSING GAN2
120FB CUNEIFORM SIGN |GAR|GAR3|GASHAN|GESHTIN|GESHTIN TIMES KUR|GI|GI TIMES E|GI TIMES U
12103 CUNEIFORM SIGN |GI CROSSING GI|GI4|GI4 OVER GI4|GI4 CROSSING GI4|GIDIM|GIR2|GIR2 GUNU|GIR3
1210B CUNEIFORM SIGN GIR3 TIMES |A PLUS IGI|GAN2 TENU|IGI|LU PLUS IGI|PA
12110 CUNEIFORM SIGN |GISAL|GISH|GISH CROSSING GISH
12113 CUNEIFORM SIGN |GISH TIMES BAD|GISH TIMES TAK4|GISH TENU|GU|GU CROSSING GU|GU2
12119 CUNEIFORM SIGN GU2 TIMES |KAK|KAK TIMES IGI GUNU|NUN|SAL PLUS TUG2
1211D CUNEIFORM SIGN |GU2 GUNU|GUD|GUD TIMES A PLUS KUR|GUD TIMES KUR|GUD OVER GUD LUGAL
12122 CUNEIFORM SIGN |GUL|GUM|GUM TIMES SHE|GUR|GUR7|GURUN|GURUSH|HA|HA TENU|HA GUNU|HAL|HI
1212E CUNEIFORM SIGN HI TIMES |ASH|ASH2|BAD|DISH|GAD|KIN|NUN|SHE|U
12137 CUNEIFORM SIGN |HU|HUB2
12139 CUNEIFORM SIGN HUB2 TIMES |AN|HAL|KASKAL|LISH|UD
1213E CUNEIFORM SIGN |HUL2|I|I A|IB|IDIM|IDIM OVER IDIM BUR|IDIM OVER IDIM SQUARED|IG|IGI
12147 CUNEIFORM SIGN IGI |DIB|RI|OVER IGI SHIR OVER SHIR UD OVER UD|GUNU
1214B CUNEIFORM SIGN |IL|IL TIMES GAN2 TENU|IL2|IM
1214F CUNEIFORM SIGN |IM TIMES TAK4|IM CROSSING IM|IM OPPOSING IM|IM SQUARED|IMIN|IN|IR|ISH|KA
12158 CUNEIFORM SIGN KA TIMES |A|AD|AD PLUS KU3|ASH2|BAD|BALAG|BAR|BI|ERIN2|ESH2
12162 CUNEIFORM SIGN KA TIMES |GA|GAL|GAN2 TENU|GAR|GAR PLUS SHA3 PLUS A|GI|GIR2|GISH PLUS SAR
1216A CUNEIFORM SIGN KA TIMES |GISH CROSSING GISH|GU|GUR7|IGI|IM|KAK|KI|KID|LI|LU|ME
12175 CUNEIFORM SIGN KA TIMES |ME PLUS DU|ME PLUS GI|ME PLUS TE|MI|MI PLUS NUNUZ|NE|NUN|PI|RU|SA
1217F CUNEIFORM SIGN KA TIMES |SAR|SHA|SHE|SHID|SHU|SIG|SUHUR|TAR|U|U2|UD|UMUM TIMES PA|USH|ZI
1218D CUNEIFORM SIGN |KA2|KA2 CROSSING KA2|KAB|KAD2
12191 CUNEIFORM SIGN |KAD3|KAD4|KAD5|KAD5 OVER KAD5|KAK|KAK TIMES IGI GUNU|KAL|KAL TIMES BAD
12199 CUNEIFORM SIGN |KAL CROSSING KAL|KAM2|KAM4|KASKAL|KASKAL LAGAB TIMES U OVER LAGAB TIMES U
1219E CUNEIFORM SIGN |KASKAL OVER KASKAL LAGAB TIMES U OVER LAGAB TIMES U|KESH2|KI|KI TIMES BAD
121A2 CUNEIFORM SIGN |KI TIMES U|KI TIMES UD|KID|KIN|KISAL|KISH|KISIM5|KISIM5 OVER KISIM5|KU
121AB CUNEIFORM SIGN |KU OVER HI TIMES ASH2 KU OVER HI TIMES ASH2|KU3|KU4|KU4 VARIANT FORM|KU7
121B0 CUNEIFORM SIGN |KUL|KUL GUNU|KUN|KUR|KUR OPPOSING KUR|KUSHU2|KWU318|LA|LAGAB|LAGAB TIMES A
121BA CUNEIFORM SIGN LAGAB TIMES A PLUS |DA PLUS HA|GAR|LAL
121BD CUNEIFORM SIGN LAGAB TIMES |AL|AN|ASH ZIDA TENU|BAD|BI|DAR|EN|GA|GAR|GUD|GUD PLUS GUD|HA
121C9 CUNEIFORM SIGN LAGAB TIMES |HAL|HI TIMES NUN|IGI GUNU|IM|IM PLUS HA|IM PLUS LU|KI|KIN|KU3
121D2 CUNEIFORM SIGN LAGAB TIMES |KUL|KUL PLUS HI PLUS A|LAGAB|LISH|LU|LUL|ME|ME PLUS EN|MUSH|NE
121DC CUNEIFORM SIGN LAGAB TIMES |SHE PLUS SUM|SHITA PLUS GISH PLUS ERIN2|SHITA PLUS GISH TENU
121DF CUNEIFORM SIGN LAGAB TIMES |SHU2|SHU2 PLUS SHU2|SUM|TAG|TAK4|TE PLUS A PLUS SU PLUS NA
121E5 CUNEIFORM SIGN LAGAB TIMES |U|U PLUS A|U PLUS U PLUS U|U2 PLUS ASH|UD|USH
121EB CUNEIFORM SIGN |LAGAB SQUARED|LAGAR
121ED CUNEIFORM SIGN LAGAR |TIMES SHE|TIMES SHE PLUS SUM|GUNU|GUNU OVER LAGAR GUNU SHE
121F1 CUNEIFORM SIGN |LAHSHU|LAL|LAL TIMES LAL|LAM|LAM TIMES KUR|LAM TIMES KUR PLUS RU
121F7 CUNEIFORM SIGN |LI|LIL|LIMMU2|LISH|LU|LU TIMES BAD|LU2|LU2 TIMES AL|LU2 TIMES BAD
12200 CUNEIFORM SIGN LU2 TIMES |ESH2|ESH2 TENU|GAN2 TENU|HI TIMES BAD|IM|KAD2|KAD3|KAD3 PLUS ASH
12208 CUNEIFORM SIGN LU2 TIMES |KI|LA PLUS ASH|LAGAB|ME PLUS EN|NE|NU|SI PLUS ASH|SIK2 PLUS BU
12210 CUNEIFORM SIGN LU2 |TIMES TUG2|TENU|CROSSING LU2|OPPOSING LU2|SQUARED|SHESHIG
12216 CUNEIFORM SIGN |LU3|LUGAL|LUGAL OVER LUGAL|LUGAL OPPOSING LUGAL|LUGAL SHESHIG|LUH|LUL|LUM
1221E CUNEIFORM SIGN |LUM OVER LUM|LUM OVER LUM GAR OVER GAR|MA|MA TIMES TAK4|MA GUNU|MA2|MAH
12225 CUNEIFORM SIGN |MAR|MASH|MASH2|ME|MES|MI|MIN|MU|MU OVER MU|MUG|MUG GUNU|MUNSUB|MURGU2|MUSH
12233 CUNEIFORM SIGN MUSH TIMES |A|KUR|ZA
12236 CUNEIFORM SIGN |MUSH OVER MUSH|MUSH OVER MUSH TIMES A PLUS NA|MUSH CROSSING MUSH|MUSH3
1223A CUNEIFORM SIGN MUSH3 |TIMES A|TIMES A PLUS DI|TIMES DI|GUNU
1223E CUNEIFORM SIGN |NA|NA2|NAGA|NAGA INVERTED|NAGA TIMES SHU TENU|NAGA OPPOSING NAGA
12244 CUNEIFORM SIGN |NAGAR|NAM NUTILLU|NAM|NAM2|NE|NE TIMES A|NE TIMES UD|NE SHESHIG|NI
1224D CUNEIFORM SIGN |NI TIMES E|NI2|NIM|NIM TIMES GAN2 TENU|NIM TIMES GAR PLUS GAN2 TENU|NINDA2
12253 CUNEIFORM SIGN NINDA2 TIMES |AN|ASH|ASH PLUS ASH|GUD|ME PLUS GAN2 TENU|NE|NUN|SHE
1225B CUNEIFORM SIGN NINDA2 TIMES SHE PLUS |A AN|ASH|ASH PLUS ASH
1225E CUNEIFORM SIGN |NINDA2 TIMES U2 PLUS ASH|NINDA2 TIMES USH|NISAG|NU|NU11|NUN
12264 CUNEIFORM SIGN NUN LAGAR TIMES |GAR|MASH|SAL|SAL OVER NUN LAGAR TIMES SAL|USH
12269 CUNEIFORM SIGN NUN |TENU|OVER NUN|CROSSING NUN|CROSSING NUN LAGAR OVER LAGAR
1226D CUNEIFORM SIGN |NUNUZ
1226E CUNEIFORM SIGN NUNUZ AB2 TIMES |ASHGAB|BI|DUG|GUD|IGI GUNU|KAD3|LA|NE|SILA3|U2
12278 CUNEIFORM SIGN |NUNUZ KISIM5 TIMES BI|NUNUZ KISIM5 TIMES BI U|PA|PAD|PAN|PAP|PESH2|PI
12280 CUNEIFORM SIGN PI TIMES |A|AB|BI|BU|E|I|IB|U|U2
12289 CUNEIFORM SIGN |PI CROSSING PI|PIRIG
1228B CUNEIFORM SIGN PIRIG TIMES |KAL|UD|ZA
1228E CUNEIFORM SIGN |PIRIG OPPOSING PIRIG|RA|RAB|RI|RU|SA|SAG NUTILLU|SAG
12296 CUNEIFORM SIGN SAG TIMES |A|DU|DUB|HA|KAK|KUR|LUM|MI|NUN|SAL|SHID|TAB|U2|UB|UM|UR|USH
122A7 CUNEIFORM SIGN |SAG OVER SAG|SAG GUNU|SAL|SAL LAGAB TIMES ASH2|SANGA2|SAR|SHA|SHA3
122AF CUNEIFORM SIGN SHA3 TIMES |A|BAD|GISH|NE|SHU2|TUR|U|U PLUS A
122B7 CUNEIFORM SIGN |SHA6|SHAB6|SHAR2|SHE|SHE HU
122BC CUNEIFORM SIGN SHE OVER SHE |GAD OVER GAD GAR OVER GAR|TAB OVER TAB GAR OVER GAR
122BE CUNEIFORM SIGN |SHEG9|SHEN|SHESH|SHESH2|SHESHLAM|SHID|SHID TIMES A|SHID TIMES IM|SHIM
122C7 CUNEIFORM SIGN SHIM TIMES |A|BAL|BULUG|DIN|GAR|IGI|IGI GUNU|KUSHU2|LUL|MUG|SAL
122D2 CUNEIFORM SIGN |SHINIG|SHIR|SHIR TENU|SHIR OVER SHIR BUR OVER BUR|SHITA|SHU
122D8 CUNEIFORM SIGN |SHU OVER INVERTED SHU|SHU2|SHUBUR|SI|SI GUNU|SIG|SIG4|SIG4 OVER SIG4 SHU2
122E0 CUNEIFORM SIGN |SIK2|SILA3|SU|SU OVER SU|SUD|SUD2|SUHUR|SUM|SUMASH|SUR|SUR9|TA|TA ASTERISK
122ED CUNEIFORM SIGN TA TIMES |HI|MI
122EF CUNEIFORM SIGN |TA GUNU|TAB|TAB OVER TAB NI OVER NI DISH OVER DISH|TAB SQUARED|TAG
122F4 CUNEIFORM SIGN TAG TIMES |BI|GUD|SHE|SHU|TUG2|UD
122FA CUNEIFORM SIGN |TAK4|TAR|TE|TE GUNU|TI|TI TENU|TIL|TIR|TIR TIMES TAK4
12303 CUNEIFORM SIGN TIR OVER |TIR|TIR GAD OVER GAD GAR OVER GAR
12305 CUNEIFORM SIGN |TU|TUG2|TUK|TUM|TUR|TUR OVER TUR ZA OVER ZA|U|U GUD|U U U
1230E CUNEIFORM SIGN U OVER U |PA OVER PA GAR OVER GAR|SUR OVER SUR|U REVERSED OVER U REVERSED
12311 CUNEIFORM SIGN |U2|UB|UD|UD KUSHU2
12315 CUNEIFORM SIGN UD TIMES |BAD|MI|U PLUS U PLUS U|U PLUS U PLUS U GUNU
12319 CUNEIFORM SIGN |UD GUNU|UD SHESHIG|UD SHESHIG TIMES BAD|UDUG|UM
1231E CUNEIFORM SIGN UM TIMES |LAGAB|ME PLUS DA|SHA3|U
12322 CUNEIFORM SIGN |UMBIN|UMUM|UMUM TIMES KASKAL
12325 CUNEIFORM SIGN |UMUM TIMES PA|UN|UN GUNU|UR|UR CROSSING UR|UR SHESHIG|UR2
1232C CUNEIFORM SIGN UR2 TIMES |A PLUS HA|A PLUS NA|AL|HA|NUN|U2|U2 PLUS ASH|U2 PLUS BI
12334 CUNEIFORM SIGN |UR4|URI|URI3|URU
12338 CUNEIFORM SIGN URU TIMES |A|ASHGAB|BAR|DUN|GA|GAL|GAN2 TENU|GAR
12340 CUNEIFORM SIGN URU TIMES |GU|HA|IGI|IM|ISH|KI|LUM|MIN|PA|SHE|SIG4|TU|U PLUS GUD|UD|URUDA
1234F CUNEIFORM SIGN |URUDA|URUDA TIMES U|USH
12352 CUNEIFORM SIGN USH TIMES |A|KU|KUR|TAK4
12356 CUNEIFORM SIGN |USHX|USH2|USHUMX|UTUKI|UZ3|UZ3 TIMES KASKAL
1235C CUNEIFORM SIGN |UZU|ZA|ZA TENU|ZA SQUARED TIMES KUR|ZAG|ZAMX|ZE2|ZI|ZI OVER ZI
12365 CUNEIFORM SIGN |ZI3|ZIB|ZIB KABA TENU|ZIG|ZIZ2|ZU|ZU5|ZU5 TIMES A|ZUBUR|ZUM|KAP ELAMITE
12370 CUNEIFORM SIGN |AB TIMES NUN|AB2 TIMES A|AMAR TIMES KUG|DAG KISIM5 TIMES U2 PLUS MASH
12374 CUNEIFORM SIGN |DAG3|DISH PLUS SHU|DUB TIMES SHE|EZEN TIMES GUD
12378 CUNEIFORM SIGN |EZEN TIMES SHE|GA2 TIMES AN PLUS KAK PLUS A|GA2 TIMES ASH2|GE22|GIG|HUSH
1237E CUNEIFORM SIGN KA TIMES |ANSHE|ASH3|GISH|GUD|HI TIMES ASH2|LUM|PA|SHUL|TU|UR2
12388 CUNEIFORM SIGN |LAGAB TIMES GI|LU2 SHESHIG TIMES BAD
1238A CUNEIFORM SIGN |LU2 TIMES ESH2 PLUS LAL|LU2 TIMES SHU|MESH|MUSH3 TIMES ZA
1238E CUNEIFORM SIGN |NA4|NIN|NIN9|NINDA2 TIMES BAL|NINDA2 TIMES GI|NU11 ROTATED NINETY DEGREES
12394 CUNEIFORM SIGN |PESH2 ASTERISK|PIR2|SAG TIMES IGI GUNU|TI2|UM TIMES ME|U U
12400 CUNEIFORM NUMERIC SIGN |TWO ASH|THREE ASH|FOUR ASH
12403 CUNEIFORM NUMERIC SIGN |FIVE ASH|SIX ASH|SEVEN ASH|EIGHT ASH|NINE ASH|THREE DISH|FOUR DISH
1240A CUNEIFORM NUMERIC SIGN |FIVE DISH|SIX DISH|SEVEN DISH|EIGHT DISH|NINE DISH|FOUR U|FIVE U
12411 CUNEIFORM NUMERIC SIGN |SIX U|SEVEN U|EIGHT U|NINE U|ONE GESH2|TWO GESH2|THREE GESH2
12418 CUNEIFORM NUMERIC SIGN |FOUR GESH2|FIVE GESH2|SIX GESH2|SEVEN GESH2|EIGHT GESH2|NINE GESH2
1241E CUNEIFORM NUMERIC SIGN |ONE GESHU|TWO GESHU|THREE GESHU|FOUR GESHU|FIVE GESHU|TWO SHAR2
12424 CUNEIFORM NUMERIC SIGN |THREE SHAR2|THREE SHAR2 VARIANT FORM|FOUR SHAR2|FIVE SHAR2
12428 CUNEIFORM NUMERIC SIGN |SIX SHAR2|SEVEN SHAR2|EIGHT SHAR2|NINE SHAR2|ONE SHARU|TWO SHARU
1242E CUNEIFORM NUMERIC SIGN |THREE SHARU|THREE SHARU VARIANT FORM|FOUR SHARU|FIVE SHARU
12432 CUNEIFORM NUMERIC SIGN SHAR2 TIMES GAL PLUS |DISH|MIN
12434 CUNEIFORM NUMERIC SIGN |ONE BURU|TWO BURU|THREE BURU|THREE BURU VARIANT FORM|FOUR BURU
12439 CUNEIFORM NUMERIC SIGN |FIVE BURU|THREE VARIANT FORM ESH16|THREE VARIANT FORM ESH21
1243C CUNEIFORM NUMERIC SIGN FOUR VARIANT FORM |LIMMU|LIMMU4|LIMMU A|LIMMU B
12440 CUNEIFORM NUMERIC SIGN SIX VARIANT FORM |ASH9
12441 CUNEIFORM NUMERIC SIGN SEVEN VARIANT FORM |IMIN3|IMIN A|IMIN B
12444 CUNEIFORM NUMERIC SIGN EIGHT VARIANT FORM |USSU|USSU3
12446 CUNEIFORM NUMERIC SIGN NINE VARIANT FORM |ILIMMU|ILIMMU3|ILIMMU4|ILIMMU A
1244A CUNEIFORM NUMERIC SIGN |TWO ASH TENU|THREE ASH TENU|FOUR ASH TENU
1244D CUNEIFORM NUMERIC SIGN |FIVE ASH TENU|SIX ASH TENU|ONE BAN2|TWO BAN2|THREE BAN2
12452 CUNEIFORM NUMERIC SIGN |FOUR BAN2|FOUR BAN2 VARIANT FORM|FIVE BAN2|FIVE BAN2 VARIANT FORM
12456 CUNEIFORM NUMERIC SIGN |NIGIDAMIN|NIGIDAESH|ONE ESHE3|TWO ESHE3|ONE THIRD DISH
1245B CUNEIFORM NUMERIC SIGN |TWO THIRDS DISH|FIVE SIXTHS DISH|ONE THIRD VARIANT FORM A
1245E CUNEIFORM NUMERIC SIGN |TWO THIRDS VARIANT FORM A|ONE EIGHTH ASH|ONE QUARTER ASH
12461 CUNEIFORM NUMERIC SIGN OLD ASSYRIAN ONE |SIXTH|QUARTER
12463 CUNEIFORM NUMERIC SIGN ONE |QUARTER GUR|HALF GUR
12465 CUNEIFORM NUMERIC SIGN ELAMITE |ONE THIRD|TWO THIRDS|FORTY|FIFTY
12469 CUNEIFORM NUMERIC SIGN |FOUR U VARIANT FORM|FIVE U VARIANT FORM|SIX U VARIANT FORM
1246C CUNEIFORM NUMERIC SIGN |SEVEN U VARIANT FORM|EIGHT U VARIANT FORM|NINE U VARIANT FORM
12470 CUNEIFORM PUNCTUATION SIGN |OLD ASSYRIAN WORD DIVIDER|VERTICAL COLON
12472 CUNEIFORM PUNCTUATION SIGN DIAGONAL |COLON|TRICOLON|QUADCOLON
12480 CUNEIFORM SIGN |AB TIMES NUN TENU|AB TIMES SHU2|AD TIMES ESH2|BAD TIMES DISH TENU
12484 CUNEIFORM SIGN BAHAR2 TIMES |AB2|NI|ZA
12487 CUNEIFORM SIGN BU OVER BU TIMES |NA2
12488 CUNEIFORM SIGN |DA TIMES TAK4|DAG TIMES KUR|DIM TIMES IGI|DIM TIMES U U U|DIM2 TIMES UD
1248D CUNEIFORM SIGN DUG TIMES |ANSHE|ASH|ASH AT LEFT|DIN|DUN|ERIN2|GA|GI|GIR2 GUNU
12496 CUNEIFORM SIGN DUG TIMES |GISH|HA|HI|IGI GUNU|KASKAL|KUR|KUSHU2|KUSHU2 PLUS KASKAL|LAK-020
1249F CUNEIFORM SIGN DUG TIMES |LAM|LAM TIMES KUR|LUH PLUS GISH|MASH|MES|MI|NI|PI|SHE|SI GUNU
124A9 CUNEIFORM SIGN |E2 TIMES KUR|E2 TIMES PAP|ERIN2 X|ESH2 CROSSING ESH2
124AD CUNEIFORM SIGN EZEN SHESHIG TIMES |ASH|HI|IGI GUNU|LA|LAL|ME|MES|SU
124B5 CUNEIFORM SIGN EZEN TIMES |SU
124B6 CUNEIFORM SIGN GA2 TIMES |BAHAR2|DIM GUNU|DUG TIMES IGI GUNU|DUG TIMES KASKAL
124BA CUNEIFORM SIGN GA2 TIMES |EREN|GA|GAR PLUS DI|GAR PLUS NE|HA PLUS A|KUSHU2 PLUS KASKAL
124C0 CUNEIFORM SIGN GA2 TIMES |LAM|LAM TIMES KUR|LUH|MUSH|NE|NE PLUS E2|NE PLUS GI|SHIM|ZIZ2
124C9 CUNEIFORM SIGN GABA ROTATED NINETY |DEGREES
124CA CUNEIFORM SIGN |GESHTIN TIMES U|GISH TIMES GISH CROSSING GISH|GU2 TIMES IGI GUNU
124CD CUNEIFORM SIGN |GUD PLUS GISH TIMES TAK4|HA TENU GUNU|HI TIMES ASH OVER HI TIMES ASH
124D0 CUNEIFORM SIGN KA TIMES |BU|KA|U U U|UR
124D4 CUNEIFORM SIGN |LAGAB TIMES ZU OVER ZU|LAK-003|LAK-021
124D7 CUNEIFORM SIGN LAK-|025|030|050|051|062|079 OVER LAK-079 GUNU|080|081 OVER LAK-081|092|130
124E1 CUNEIFORM SIGN LAK-|142|210|219|220|225|228|238|265|266|343|347|348|383|384|390|441|449
124F2 CUNEIFORM SIGN LAK-449 TIMES |GU|IGI|PAP PLUS LU3|PAP PLUS PAP PLUS LU3|U2 PLUS BA
124F7 CUNEIFORM SIGN LAK-|450|457|470|483|490|492|493|495|550|608|617
12502 CUNEIFORM SIGN LAK-617 TIMES |ASH|BAD|DUN3 GUNU GUNU|KU3|LA|TAR|TE|U2|UD|URUDA
1250C CUNEIFORM SIGN LAK-|636|648|648 TIMES DUB|648 TIMES GA
12510 CUNEIFORM SIGN LAK-648 TIMES |IGI|IGI GUNU|NI|PAP PLUS PAP PLUS LU3|SHESH PLUS KI|UD|URUDA
12517 CUNEIFORM SIGN |LAK-724|LAK-749|LU2 GUNU TIMES ASH
1251A CUNEIFORM SIGN LU2 TIMES |DISH|HAL|PAP|PAP PLUS PAP PLUS LU3|TAK4
1251F CUNEIFORM SIGN MI PLUS |ZA7
12520 CUNEIFORM SIGN |MUSH OVER MUSH TIMES GA|MUSH OVER MUSH TIMES KAK|NINDA2 TIMES DIM GUNU
12523 CUNEIFORM SIGN NINDA2 TIMES |GISH|GUL|HI|KESH2|LAK-050|MASH|PAP PLUS PAP|U|U PLUS U|URUDA
1252D CUNEIFORM SIGN SAG |GUNU TIMES HA|TIMES EN|TIMES SHE AT LEFT|TIMES TAK4
12531 CUNEIFORM SIGN |SHA6 TENU|SHE OVER SHE|SHE PLUS HUB2|SHE PLUS NAM2|SHE PLUS SAR
12536 CUNEIFORM SIGN |SHU2 PLUS DUG TIMES NI|SHU2 PLUS E2 TIMES AN|SI TIMES TAK4|TAK4 PLUS SAG
1253A CUNEIFORM SIGN |TUM TIMES GAN2 TENU|TUM TIMES THREE DISH|UR2 INVERTED|UR2 TIMES UD
1253E CUNEIFORM SIGN URU TIMES |DARA3|LAK-668|LU3
12541 CUNEIFORM SIGN |ZA7|ZU OVER ZU PLUS SAR|ZU5 TIMES THREE DISH TENU
12F90 CYPRO-MINOAN SIGN |CM001|CM002|CM004|CM005|CM006
12F95 CYPRO-MINOAN SIGN |CM007|CM008|CM009|CM010|CM011|CM012|CM012B|CM013|CM015|CM017|CM019
12FA0 CYPRO-MINOAN SIGN |CM021|CM023|CM024|CM025|CM026|CM027|CM028|CM029|CM030|CM033|CM034|CM035
12FAC CYPRO-MINOAN SIGN |CM036|CM037|CM038|CM039|CM040|CM041|CM044|CM046|CM047|CM049|CM050|CM051
12FB8 CYPRO-MINOAN SIGN |CM052|CM053|CM054|CM055|CM056|CM058|CM059|CM060|CM061|CM062|CM063|CM064
12FC4 CYPRO-MINOAN SIGN |CM066|CM067|CM068|CM069|CM070|CM071|CM072|CM073|CM074|CM075|CM075B
12FCF CYPRO-MINOAN SIGN |CM076|CM078|CM079|CM080|CM081|CM082|CM083|CM084|CM085|CM086|CM087|CM088
12FDB CYPRO-MINOAN SIGN |CM089|CM090|CM091|CM092|CM094|CM095|CM096|CM097|CM098|CM099|CM100|CM101
12FE7 CYPRO-MINOAN SIGN |CM102|CM103|CM104|CM105|CM107|CM108|CM109|CM110|CM112|CM114|CM301|CM302"

end Text
end RecordRules
