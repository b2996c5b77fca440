/-!
# The table of the names of characters

The names of characters, those that are alternatives and abbreviations among them; left out are the
names that end in a number of a series, and those of ideographs and of syllables.
-/

namespace FrameScript.Text

/-- Names in the order of their words. A number says how many words of the name before it a name
begins with, and the words after the number are the others. -/
def nameTable : String := "
  0 ABACUS 0 AC CURRENT 0 ACCORDION 0 ACCOUNT OF 0 ACK 0 ACKNOWLEDGE 0 ACTIVATE ARABIC FORM SHAPING
  1 SYMMETRIC SWAPPING 0 ACUTE ACCENT 1 ANGLE 0 ADDRESSED TO THE SUBJECT 0 ADHESIVE BANDAGE 0 ADI
  SHAKTI 0 ADLAM ALIF LENGTHENER 1 CAPITAL LETTER ALIF 3 BA 3 BHE 3 CHI 3 DAALI 3 DHA 3 E 3 FA 3 GA
  3 GBE 3 HA 3 I 3 JIIM 3 KAF 3 KHA 3 KPO 3 LAAM 3 MIIM 3 NHA 3 NUN 3 NYA 3 O 3 PE 3 QAAF 3 RA 3 SHA
  3 SINNYIIYHE 3 TU 3 U 3 VA 3 WAW 3 YA 3 YHE 3 ZAL 1 CONSONANT MODIFIER 1 DIGIT EIGHT 2 FIVE 2 FOUR
  2 NINE 2 ONE 2 SEVEN 2 SIX 2 THREE 2 TWO 2 ZERO 1 GEMINATE CONSONANT MODIFIER 1 GEMINATION MARK 1
  HAMZA 1 INITIAL EXCLAMATION MARK 2 QUESTION MARK 1 NASALIZATION MARK 1 NUKTA 1 SMALL LETTER ALIF 3
  BA 3 BHE 3 CHI 3 DAALI 3 DHA 3 E 3 FA 3 GA 3 GBE 3 HA 3 I 3 JIIM 3 KAF 3 KHA 3 KPO 3 LAAM 3 MIIM 3
  NHA 3 NUN 3 NYA 3 O 3 PE 3 QAAF 3 RA 3 SHA 3 SINNYIIYHE 3 TU 3 U 3 VA 3 WAW 3 YA 3 YHE 3 ZAL 1
  VOWEL LENGTHENER 0 ADMETOS 0 ADMISSION TICKETS 0 ADULT 0 AEGEAN CHECK MARK 1 DRY MEASURE FIRST
  SUBUNIT 1 LIQUID MEASURE FIRST SUBUNIT 1 MEASURE SECOND SUBUNIT 2 THIRD SUBUNIT 1 NUMBER EIGHT 3
  HUNDRED 3 THOUSAND 2 EIGHTY 3 THOUSAND 2 FIFTY 3 THOUSAND 2 FIVE 3 HUNDRED 3 THOUSAND 2 FORTY 3
  THOUSAND 2 FOUR 3 HUNDRED 3 THOUSAND 2 NINE 3 HUNDRED 3 THOUSAND 2 NINETY 3 THOUSAND 2 ONE 3
  HUNDRED 3 THOUSAND 2 SEVEN 3 HUNDRED 3 THOUSAND 2 SEVENTY 3 THOUSAND 2 SIX 3 HUNDRED 3 THOUSAND 2
  SIXTY 3 THOUSAND 2 TEN 3 THOUSAND 2 THIRTY 3 THOUSAND 2 THREE 3 HUNDRED 3 THOUSAND 2 TWENTY 3
  THOUSAND 2 TWO 3 HUNDRED 3 THOUSAND 1 WEIGHT BASE UNIT 2 FIRST SUBUNIT 2 FOURTH SUBUNIT 2 SECOND
  SUBUNIT 2 THIRD SUBUNIT 1 WORD SEPARATOR DOT 3 LINE 0 AERIAL TRAMWAY 0 AFGHANI SIGN 0 AHOM
  CONSONANT SIGN MEDIAL LA 4 LIGATING RA 4 RA 1 DIGIT EIGHT 2 FIVE 2 FOUR 2 NINE 2 ONE 2 SEVEN 2 SIX
  2 THREE 2 TWO 2 ZERO 1 LETTER A 2 ALTERNATE BA 3 GA 3 TA 2 BA 2 BHA 2 CA 2 CHA 2 DA 2 DDA 2 DDHA 2
  DHA 2 GA 2 GHA 2 HA 2 JA 2 JHA 2 KA 2 KHA 2 LA 2 LLA 2 MA 2 NA 2 NGA 2 NNA 2 NYA 2 PA 2 PHA 2 RA 2
  SA 2 TA 2 THA 2 TTA 2 TTHA 1 NUMBER TEN 2 TWENTY 1 SIGN KILLER 2 RULAI 2 SECTION 2 SMALL SECTION 1
  SYMBOL VI 1 VOWEL SIGN A 3 AA 3 AI 3 AM 3 AW 3 E 3 I 3 II 3 O 3 U 3 UU 0 AIRPLANE 1 ARRIVING 1
  DEPARTURE 0 AKTIESELSKAB 0 ALARM CLOCK 0 ALCHEMICAL SYMBOL FOR AIR 3 ALEMBIC 3 ALKALI 3 ALKALI-2 3
  ALUM 3 AMALGAM 3 ANTIMONY ORE 3 AQUA REGIA 4 REGIA-2 4 VITAE 4 VITAE-2 3 AQUAFORTIS 3 ARSENIC 3
  ASHES 3 AURIPIGMENT 3 BATH OF MARY 5 VAPOURS 3 BISMUTH ORE 3 BLACK SULFUR 3 BORAX 3 BORAX-2 3
  BORAX-3 3 BRICK 3 CADUCEUS 3 CALX 3 CAPUT MORTUUM 3 CINNABAR 3 COPPER ANTIMONIATE 4 ORE 3 CROCUS
  OF COPPER 5 COPPER-2 5 IRON 3 CRUCIBLE 3 CRUCIBLE-2 3 CRUCIBLE-3 3 CRUCIBLE-4 3 CRUCIBLE-5 3
  DAY-NIGHT 3 DISSOLVE 3 DISSOLVE-2 3 DISTILL 3 EARTH 3 FIRE 3 GOLD 3 GUM 3 HALF DRAM 4 OUNCE 3
  HORSE DUNG 3 HOUR 3 IRON ORE 4 ORE-2 3 IRON-COPPER ORE 3 LEAD ORE 3 LODESTONE 3 MARCASITE 3
  MERCURY SUBLIMATE 4 SUBLIMATE-2 4 SUBLIMATE-3 3 MONTH 3 NIGHT 3 NITRE 3 OIL 3 PHILOSOPHERS SULFUR
  3 POT ASHES 3 POWDER 3 POWDERED BRICK 3 PRECIPITATE 3 PURIFY 3 PUTREFACTION 3 QUICK LIME 3
  QUINTESSENCE 3 REALGAR 3 REALGAR-2 3 REGULUS 4 OF ANTIMONY 5 ANTIMONY-2 5 IRON 3 REGULUS-2 3
  REGULUS-3 3 REGULUS-4 3 RETORT 3 ROCK SALT 4 SALT-2 3 SAL-AMMONIAC 3 SALT 4 OF ANTIMONY 5 COPPER
  ANTIMONIATE 3 SCEPTER OF JOVE 3 SILVER 3 SOAP 3 SPIRIT 3 STARRED TRIDENT 3 STRATUM SUPER STRATUM 5
  STRATUM-2 3 SUBLIMATE OF ANTIMONY 5 COPPER 5 SALT OF ANTIMONY 7 COPPER 3 SUBLIMATION 3 SULFUR 3
  TARTAR 3 TARTAR-2 3 TIN ORE 3 TINCTURE 3 TRIDENT 3 TUTTY 3 URINE 3 VERDIGRIS 3 VINEGAR 4 OF
  ANTIMONY 3 VINEGAR-2 3 VINEGAR-3 3 VITRIOL 3 VITRIOL-2 3 WATER 3 WAX 0 ALEF SYMBOL 0 ALEMBIC 0
  ALERT 0 ALIEN MONSTER 0 ALL AROUND-PROFILE 1 EQUAL TO 0 ALM 0 ALMOST EQUAL OR EQUAL TO 2 TO 3 WITH
  CIRCUMFLEX ACCENT 0 ALTERNATE ONE-WAY LEFT WAY TRAFFIC 0 ALTERNATIVE KEY SYMBOL 0 AMALGAMATION OR
  COPRODUCT 0 AMBULANCE 0 AMERICAN FOOTBALL 0 AMPERSAND 0 AMPHORA 0 ANATOLIAN HIEROGLYPH A001 2 A002
  2 A003 2 A004 2 A005 2 A006 2 A007 2 A008 2 A009 2 A010 2 A010A 2 A011 2 A012 2 A013 2 A014 2 A015
  2 A016 2 A017 2 A018 2 A019 2 A020 2 A021 2 A022 2 A023 2 A024 2 A025 2 A026 2 A026A 2 A027 2 A028
  2 A029 2 A030 2 A031 2 A032 2 A033 2 A034 2 A035 2 A036 2 A037 2 A038 2 A039 2 A039A 2 A040 2 A041
  2 A041A 2 A042 2 A043 2 A044 2 A045 2 A045A 2 A046 2 A046A 2 A046B 2 A047 2 A048 2 A049 2 A050 2
  A051 2 A052 2 A053 2 A054 2 A055 2 A056 2 A057 2 A058 2 A059 2 A060 2 A061 2 A062 2 A063 2 A064 2
  A065 2 A066 2 A066A 2 A066B 2 A066C 2 A067 2 A068 2 A069 2 A070 2 A071 2 A072 2 A073 2 A074 2 A075
  2 A076 2 A077 2 A078 2 A079 2 A080 2 A081 2 A082 2 A083 2 A084 2 A085 2 A086 2 A087 2 A088 2 A089
  2 A090 2 A091 2 A092 2 A093 2 A094 2 A095 2 A096 2 A097 2 A097A 2 A098 2 A098A 2 A099 2 A100 2
  A100A 2 A101 2 A101A 2 A102 2 A102A 2 A103 2 A104 2 A104A 2 A104B 2 A104C 2 A105 2 A105A 2 A105B 2
  A106 2 A107 2 A107A 2 A107B 2 A107C 2 A108 2 A109 2 A110 2 A110A 2 A110B 2 A111 2 A112 2 A113 2
  A114 2 A115 2 A115A 2 A116 2 A117 2 A118 2 A119 2 A120 2 A121 2 A122 2 A123 2 A124 2 A125 2 A125A
  2 A126 2 A127 2 A128 2 A129 2 A130 2 A131 2 A132 2 A133 2 A134 2 A135 2 A135A 2 A136 2 A137 2 A138
  2 A139 2 A140 2 A141 2 A142 2 A143 2 A144 2 A145 2 A146 2 A147 2 A148 2 A149 2 A150 2 A151 2 A152
  2 A153 2 A154 2 A155 2 A156 2 A157 2 A158 2 A159 2 A160 2 A161 2 A162 2 A163 2 A164 2 A165 2 A166
  2 A167 2 A168 2 A169 2 A170 2 A171 2 A172 2 A173 2 A174 2 A175 2 A176 2 A177 2 A178 2 A179 2 A180
  2 A181 2 A182 2 A183 2 A184 2 A185 2 A186 2 A187 2 A188 2 A189 2 A190 2 A191 2 A192 2 A193 2 A194
  2 A195 2 A196 2 A197 2 A198 2 A199 2 A200 2 A201 2 A202 2 A202A 2 A202B 2 A203 2 A204 2 A205 2
  A206 2 A207 2 A207A 2 A208 2 A209 2 A209A 2 A210 2 A211 2 A212 2 A213 2 A214 2 A215 2 A215A 2 A216
  2 A216A 2 A217 2 A218 2 A219 2 A220 2 A221 2 A222 2 A223 2 A224 2 A225 2 A226 2 A227 2 A227A 2
  A228 2 A229 2 A230 2 A231 2 A232 2 A233 2 A234 2 A235 2 A236 2 A237 2 A238 2 A239 2 A240 2 A241 2
  A242 2 A243 2 A244 2 A245 2 A246 2 A247 2 A248 2 A249 2 A250 2 A251 2 A252 2 A253 2 A254 2 A255 2
  A256 2 A257 2 A258 2 A259 2 A260 2 A261 2 A262 2 A263 2 A264 2 A265 2 A266 2 A267 2 A267A 2 A268 2
  A269 2 A270 2 A271 2 A272 2 A273 2 A274 2 A275 2 A276 2 A277 2 A278 2 A279 2 A280 2 A281 2 A282 2
  A283 2 A284 2 A285 2 A286 2 A287 2 A288 2 A289 2 A289A 2 A290 2 A291 2 A292 2 A293 2 A294 2 A294A
  2 A295 2 A296 2 A297 2 A298 2 A299 2 A299A 2 A300 2 A301 2 A302 2 A303 2 A304 2 A305 2 A306 2 A307
  2 A308 2 A309 2 A309A 2 A310 2 A311 2 A312 2 A313 2 A314 2 A315 2 A316 2 A317 2 A318 2 A319 2 A320
  2 A321 2 A322 2 A323 2 A324 2 A325 2 A326 2 A327 2 A328 2 A329 2 A329A 2 A330 2 A331 2 A332A 2
  A332B 2 A332C 2 A333 2 A334 2 A335 2 A336 2 A336A 2 A336B 2 A336C 2 A337 2 A338 2 A339 2 A340 2
  A341 2 A342 2 A343 2 A344 2 A345 2 A346 2 A347 2 A348 2 A349 2 A350 2 A351 2 A352 2 A353 2 A354 2
  A355 2 A356 2 A357 2 A358 2 A359 2 A359A 2 A360 2 A361 2 A362 2 A363 2 A364 2 A364A 2 A365 2 A366
  2 A367 2 A368 2 A368A 2 A369 2 A370 2 A371 2 A371A 2 A372 2 A373 2 A374 2 A375 2 A376 2 A377 2
  A378 2 A379 2 A380 2 A381 2 A381A 2 A382 2 A383 RA OR RI 2 A383A 2 A384 2 A385 2 A386 2 A386A 2
  A387 2 A388 2 A389 2 A390 2 A391 2 A392 2 A393 EIGHT 2 A394 2 A395 2 A396 2 A397 2 A398 2 A399 2
  A400 2 A401 2 A402 2 A403 2 A404 2 A405 2 A406 2 A407 2 A408 2 A409 2 A410 BEGIN LOGOGRAM MARK 2
  A410A END LOGOGRAM MARK 2 A411 2 A412 2 A413 2 A414 2 A415 2 A416 2 A417 2 A418 2 A419 2 A420 2
  A421 2 A422 2 A423 2 A424 2 A425 2 A426 2 A427 2 A428 2 A429 2 A430 2 A431 2 A432 2 A433 2 A434 2
  A435 2 A436 2 A437 2 A438 2 A439 2 A440 2 A441 2 A442 2 A443 2 A444 2 A445 2 A446 2 A447 2 A448 2
  A449 2 A450 2 A450A 2 A451 2 A452 2 A453 2 A454 2 A455 2 A456 2 A457 2 A457A 2 A458 2 A459 2 A460
  2 A461 2 A462 2 A463 2 A464 2 A465 2 A466 2 A467 2 A468 2 A469 2 A470 2 A471 2 A472 2 A473 2 A474
  2 A475 2 A476 2 A477 2 A478 2 A479 2 A480 2 A481 2 A482 2 A483 2 A484 2 A485 2 A486 2 A487 2 A488
  2 A489 2 A490 2 A491 2 A492 2 A493 2 A494 2 A495 2 A496 2 A497 2 A501 2 A502 2 A503 2 A504 2 A505
  2 A506 2 A507 2 A508 2 A509 2 A510 2 A511 2 A512 2 A513 2 A514 2 A515 2 A516 2 A517 2 A518 2 A519
  2 A520 2 A521 2 A522 2 A523 2 A524 2 A525 2 A526 2 A527 2 A528 2 A529 2 A530 0 ANATOMICAL HEART 0
  ANCHOR 0 AND WITH DOT 0 ANGER SYMBOL 0 ANGLE 1 WITH S INSIDE 2 UNDERBAR 0 ANGRY FACE 0 ANGSTROM
  SIGN 0 ANGUISHED FACE 0 ANKH 0 ANT 0 ANTENNA WITH BARS 0 ANTICLOCKWISE CLOSED CIRCLE ARROW 1
  CONTOUR INTEGRAL 1 DOWNWARDS AND UPWARDS OPEN CIRCLE ARROWS 1 GAPPED CIRCLE ARROW 1 INTEGRATION 1
  OPEN CIRCLE ARROW 1 TOP SEMICIRCLE ARROW 1 TRIANGLE-HEADED BOTTOM U-SHAPED ARROW 2 LEFT U-SHAPED
  ARROW 2 OPEN CIRCLE ARROW 2 RIGHT U-SHAPED ARROW 2 TOP U-SHAPED ARROW 0 APC 0 APL FUNCTIONAL
  SYMBOL ALPHA 4 UNDERBAR 3 BACKSLASH BAR 3 CIRCLE BACKSLASH 4 DIAERESIS 4 JOT 4 STAR 4 STILE 4
  UNDERBAR 3 COMMA BAR 3 DEL DIAERESIS 4 STILE 4 TILDE 3 DELTA STILE 4 UNDERBAR 3 DIAMOND UNDERBAR 3
  DOWN CARET TILDE 4 SHOE STILE 4 TACK JOT 5 UNDERBAR 3 DOWNWARDS VANE 3 EPSILON UNDERBAR 3
  GREATER-THAN DIAERESIS 3 I-BEAM 3 IOTA 4 UNDERBAR 3 JOT DIAERESIS 4 UNDERBAR 3 LEFT SHOE STILE 3
  LEFTWARDS VANE 3 OMEGA 4 UNDERBAR 3 QUAD 4 BACKSLASH 4 CIRCLE 4 COLON 4 DEL 4 DELTA 4 DIAMOND 4
  DIVIDE 4 DOWN CARET 4 DOWNWARDS ARROW 4 EQUAL 4 GREATER-THAN 4 JOT 4 LEFTWARDS ARROW 4 LESS-THAN 4
  NOT EQUAL 4 QUESTION 4 RIGHTWARDS ARROW 4 SLASH 4 UP CARET 4 UPWARDS ARROW 3 QUOTE QUAD 4 UNDERBAR
  3 RHO 3 RIGHTWARDS VANE 3 SEMICOLON UNDERBAR 3 SLASH BAR 3 SQUISH QUAD 3 STAR DIAERESIS 3 STILE
  TILDE 3 TILDE DIAERESIS 3 UP CARET TILDE 4 SHOE JOT 4 TACK DIAERESIS 5 JOT 5 OVERBAR 3 UPWARDS
  VANE 3 ZILDE 0 APOLLON 0 APOSTROPHE 0 APPLICATION PROGRAM COMMAND 0 APPROACHES THE LIMIT 0
  APPROXIMATELY BUT NOT ACTUALLY EQUAL TO 1 EQUAL OR EQUAL TO 2 TO 3 OR THE IMAGE OF 0 AQUARIUS 0
  ARABIC BASELINE ROUND DOT 1 COMMA 1 CURLY DAMMA 2 DAMMATAN 2 FATHA 2 FATHATAN 2 KASRA 2 KASRATAN 1
  DAMMA 2 ISOLATED FORM 2 MEDIAL FORM 2 WITH DOT 1 DAMMATAN 2 ISOLATED FORM 1 DATE SEPARATOR 1
  DECIMAL SEPARATOR 1 DISPUTED END OF AYAH 1 DOUBLE RIGHT ARROWHEAD ABOVE 5 WITH DOT 1 DOUBLED MADDA
  1 EMPTY CENTRE HIGH STOP 3 LOW STOP 1 END OF AYAH 3 TEXT MARK 1 FATHA 2 ISOLATED FORM 2 MEDIAL
  FORM 2 WITH DOT ABOVE 3 RING 3 TWO DOTS 1 FATHATAN 2 ISOLATED FORM 1 FIVE POINTED STAR 1 FOOTNOTE
  MARKER 1 FULL STOP 1 HALF MADDA OVER MADDA 1 HAMZA ABOVE 2 BELOW 1 INVERTED DAMMA 1 KASRA 2
  ISOLATED FORM 2 MEDIAL FORM 2 WITH DOT BELOW 1 KASRATAN 2 ISOLATED FORM 1 LARGE CIRCLE BELOW 2
  ROUND DOT ABOVE 4 BELOW 4 INSIDE CIRCLE BELOW 1 LEFT ARROWHEAD ABOVE 3 BELOW 1 LETTER AE 2 AFRICAN
  FEH 3 NOON 3 QAF 4 WITH THREE DOTS ABOVE 2 AIN 3 FINAL FORM 3 INITIAL FORM 3 ISOLATED FORM 3
  MEDIAL FORM 3 WITH THREE DOTS ABOVE 6 BELOW 6 POINTING DOWNWARDS ABOVE 4 TWO DOTS ABOVE 6
  VERTICALLY ABOVE 2 ALEF 3 FINAL FORM 3 ISOLATED FORM 3 MAKSURA 4 FINAL FORM 4 ISOLATED FORM 3
  WASLA 4 FINAL FORM 4 ISOLATED FORM 3 WITH ATTACHED BOTTOM RIGHT KASRA 8 AND DOT ABOVE 9 LEFT RING
  5 FATHA 5 KASRA 5 LEFT HAMZA 6 ROUND DOT 5 RIGHT HAMZA 6 ROUND DOT 5 ROUND DOT ABOVE 7 BELOW 5 TOP
  RIGHT FATHA 8 AND DOT ABOVE 9 LEFT RING 4 DOT ABOVE 4 EXTENDED ARABIC-INDIC DIGIT THREE ABOVE 7
  TWO ABOVE 4 HAMZA ABOVE 6 FINAL FORM 6 ISOLATED FORM 5 BELOW 6 FINAL FORM 6 ISOLATED FORM 4 LEFT
  MIDDLE STROKE 4 MADDA ABOVE 6 FINAL FORM 6 ISOLATED FORM 4 RIGHT MIDDLE STROKE 7 AND DOT ABOVE 8
  LEFT RING 4 WAVY HAMZA ABOVE 6 BELOW 2 BEEH 3 FINAL FORM 3 INITIAL FORM 3 ISOLATED FORM 3 MEDIAL
  FORM 2 BEH 3 FINAL FORM 3 INITIAL FORM 3 ISOLATED FORM 3 MEDIAL FORM 3 WITH DOT BELOW AND THREE
  DOTS ABOVE 4 HAMZA ABOVE 4 INVERTED SMALL V BELOW 4 SMALL MEEM ABOVE 5 V 6 BELOW 4 THREE DOTS
  HORIZONTALLY BELOW 6 POINTING UPWARDS BELOW 9 AND TWO DOTS ABOVE 4 TWO DOTS BELOW AND DOT ABOVE 2
  BEHEH 3 FINAL FORM 3 INITIAL FORM 3 ISOLATED FORM 3 MEDIAL FORM 2 DAD 3 FINAL FORM 3 INITIAL FORM
  3 ISOLATED FORM 3 MEDIAL FORM 3 WITH DOT BELOW 2 DAHAL 3 FINAL FORM 3 ISOLATED FORM 2 DAL 3 FINAL
  FORM 3 ISOLATED FORM 3 WITH DOT BELOW 6 AND SMALL TAH 4 FOUR DOTS ABOVE 4 INVERTED SMALL V BELOW 5
  V 4 RING 4 THREE DOTS ABOVE DOWNWARDS 6 BELOW 4 TWO DOTS VERTICALLY BELOW AND SMALL TAH 2 DDAHAL 3
  FINAL FORM 3 ISOLATED FORM 2 DDAL 3 FINAL FORM 3 ISOLATED FORM 2 DOTLESS BEH 3 FEH 3 QAF 2 DUL 3
  FINAL FORM 3 ISOLATED FORM 2 DYEH 3 FINAL FORM 3 INITIAL FORM 3 ISOLATED FORM 3 MEDIAL FORM 2 E 3
  FINAL FORM 3 INITIAL FORM 3 ISOLATED FORM 3 MEDIAL FORM 2 FARSI YEH 4 FINAL FORM 4 INITIAL FORM 4
  ISOLATED FORM 4 MEDIAL FORM 4 WITH EXTENDED ARABIC-INDIC DIGIT FOUR BELOW 8 THREE ABOVE 8 TWO
  ABOVE 5 INVERTED V 5 THREE DOTS ABOVE 5 TWO DOTS ABOVE 2 FEH 3 FINAL FORM 3 INITIAL FORM 3
  ISOLATED FORM 3 MEDIAL FORM 3 WITH DOT BELOW 6 AND THREE DOTS ABOVE 5 MOVED BELOW 4 THREE DOTS
  BELOW 6 POINTING UPWARDS BELOW 4 TWO DOTS BELOW 2 GAF 3 FINAL FORM 3 INITIAL FORM 3 ISOLATED FORM
  3 MEDIAL FORM 3 WITH INVERTED STROKE 4 RING 4 THREE DOTS ABOVE 4 TWO DOTS BELOW 2 GHAIN 3 FINAL
  FORM 3 INITIAL FORM 3 ISOLATED FORM 3 MEDIAL FORM 3 WITH DOT BELOW 4 THREE DOTS ABOVE 2 GRAF 2
  GUEH 3 FINAL FORM 3 INITIAL FORM 3 ISOLATED FORM 3 MEDIAL FORM 2 HAH 3 FINAL FORM 3 INITIAL FORM 3
  ISOLATED FORM 3 MEDIAL FORM 3 WITH EXTENDED ARABIC-INDIC DIGIT FOUR BELOW 4 HAMZA ABOVE 4 INVERTED
  SMALL V BELOW 4 SMALL ARABIC LETTER TAH ABOVE 8 AND TWO DOTS 8 BELOW 4 THREE DOTS ABOVE 6 POINTING
  UPWARDS BELOW 4 TWO DOTS ABOVE 6 VERTICAL ABOVE 2 HAMZA 3 ISOLATED FORM 2 HEH 3 DOACHASHMEE 4
  FINAL FORM 4 INITIAL FORM 4 ISOLATED FORM 4 MEDIAL FORM 3 FINAL FORM 3 GOAL 4 FINAL FORM 4 INITIAL
  FORM 4 ISOLATED FORM 4 MEDIAL FORM 4 WITH HAMZA ABOVE 3 INITIAL FORM 3 ISOLATED FORM 3 MEDIAL FORM
  3 WITH INVERTED V 4 YEH ABOVE 6 FINAL FORM 6 ISOLATED FORM 2 HIGH HAMZA 4 ALEF 4 WAW 4 YEH 2 JEEM
  3 FINAL FORM 3 INITIAL FORM 3 ISOLATED FORM 3 MEDIAL FORM 3 WITH THREE DOTS ABOVE 6 BELOW 4 TWO
  DOTS ABOVE 2 JEH 3 FINAL FORM 3 ISOLATED FORM 2 KAF 3 FINAL FORM 3 INITIAL FORM 3 ISOLATED FORM 3
  MEDIAL FORM 3 WITH DOT ABOVE 5 BELOW 4 RING 4 THREE DOTS BELOW 4 TWO DOTS ABOVE 2 KASHMIRI YEH 2
  KEHEH 3 FINAL FORM 3 INITIAL FORM 3 ISOLATED FORM 3 MEDIAL FORM 3 WITH DOT ABOVE 4 SMALL V 4 THREE
  DOTS ABOVE 6 BELOW 6 POINTING UPWARDS BELOW 4 TWO DOTS ABOVE 6 VERTICALLY BELOW 2 KHAH 3 FINAL
  FORM 3 INITIAL FORM 3 ISOLATED FORM 3 MEDIAL FORM 2 KIRGHIZ OE 4 FINAL FORM 4 ISOLATED FORM 3 YU 4
  FINAL FORM 4 ISOLATED FORM 2 LAM 3 FINAL FORM 3 INITIAL FORM 3 ISOLATED FORM 3 MEDIAL FORM 3 WITH
  BAR 4 DOT ABOVE 4 DOUBLE BAR 4 SMALL ARABIC LETTER TAH ABOVE 5 V 4 THREE DOTS ABOVE 6 BELOW 2 LOW
  ALEF 2 MARK 2 MEEM 3 FINAL FORM 3 INITIAL FORM 3 ISOLATED FORM 3 MEDIAL FORM 3 WITH DOT ABOVE 5
  BELOW 4 THREE DOTS ABOVE 2 NG 3 FINAL FORM 3 INITIAL FORM 3 ISOLATED FORM 3 MEDIAL FORM 2 NGOEH 3
  FINAL FORM 3 INITIAL FORM 3 ISOLATED FORM 3 MEDIAL FORM 2 NOON 3 FINAL FORM 3 GHUNNA 4 FINAL FORM
  4 ISOLATED FORM 3 INITIAL FORM 3 ISOLATED FORM 3 MEDIAL FORM 3 WITH DOT BELOW 4 INVERTED SMALL V 4
  RING 4 SMALL TAH 5 V 4 THREE DOTS ABOVE 4 TWO DOTS BELOW 2 NYEH 3 FINAL FORM 3 INITIAL FORM 3
  ISOLATED FORM 3 MEDIAL FORM 2 OE 3 FINAL FORM 3 ISOLATED FORM 2 PEH 3 FINAL FORM 3 INITIAL FORM 3
  ISOLATED FORM 3 MEDIAL FORM 3 WITH SMALL MEEM ABOVE 5 V 2 PEHEH 3 FINAL FORM 3 INITIAL FORM 3
  ISOLATED FORM 3 MEDIAL FORM 2 QAF 3 FINAL FORM 3 INITIAL FORM 3 ISOLATED FORM 3 MEDIAL FORM 3 WITH
  DOT ABOVE 5 BELOW 6 AND NO DOTS ABOVE 4 THREE DOTS ABOVE 2 REH 3 FINAL FORM 3 ISOLATED FORM 3 WITH
  DOT BELOW 6 AND DOT ABOVE 4 FOUR DOTS ABOVE 4 HAMZA ABOVE 4 INVERTED V 4 LOOP 4 RING 4 SMALL
  ARABIC LETTER TAH AND TWO DOTS 5 NOON ABOVE 5 V 6 BELOW 4 STROKE 4 TWO DOTS ABOVE 6 VERTICALLY
  ABOVE 2 RNOON 3 FINAL FORM 3 INITIAL FORM 3 ISOLATED FORM 3 MEDIAL FORM 2 ROHINGYA YEH 2 RREH 3
  FINAL FORM 3 ISOLATED FORM 2 SAD 3 FINAL FORM 3 INITIAL FORM 3 ISOLATED FORM 3 MEDIAL FORM 3 WITH
  THREE DOTS ABOVE 6 BELOW 4 TWO DOTS BELOW 2 SEEN 3 FINAL FORM 3 INITIAL FORM 3 ISOLATED FORM 3
  MEDIAL FORM 3 WITH DOT BELOW AND DOT ABOVE 4 EXTENDED ARABIC-INDIC DIGIT FOUR ABOVE 4 FOUR DOTS
  ABOVE 4 INVERTED V 4 SMALL ARABIC LETTER TAH AND TWO DOTS 4 THREE DOTS BELOW 7 AND THREE DOTS
  ABOVE 4 TWO DOTS VERTICALLY ABOVE 2 SHEEN 3 FINAL FORM 3 INITIAL FORM 3 ISOLATED FORM 3 MEDIAL
  FORM 3 WITH DOT BELOW 2 STRAIGHT WAW 2 SUPERSCRIPT ALEF 2 SWASH KAF 2 TAH 3 FINAL FORM 3 INITIAL
  FORM 3 ISOLATED FORM 3 MEDIAL FORM 3 WITH DOT BELOW 4 THREE DOTS ABOVE 6 BELOW 4 TWO DOTS ABOVE 2
  TCHEH 3 FINAL FORM 3 INITIAL FORM 3 ISOLATED FORM 3 MEDIAL FORM 3 WITH DOT ABOVE 4 SMALL V 2
  TCHEHEH 3 FINAL FORM 3 INITIAL FORM 3 ISOLATED FORM 3 MEDIAL FORM 2 TEH 3 FINAL FORM 3 INITIAL
  FORM 3 ISOLATED FORM 3 MARBUTA 4 FINAL FORM 4 GOAL 4 ISOLATED FORM 3 MEDIAL FORM 3 WITH RING 4
  SMALL TEH ABOVE 5 V 4 THREE DOTS ABOVE DOWNWARDS 2 TEHEH 3 FINAL FORM 3 INITIAL FORM 3 ISOLATED
  FORM 3 MEDIAL FORM 2 THAL 3 FINAL FORM 3 ISOLATED FORM 2 THEH 3 FINAL FORM 3 INITIAL FORM 3
  ISOLATED FORM 3 MEDIAL FORM 2 THIN YEH 2 TTEH 3 FINAL FORM 3 INITIAL FORM 3 ISOLATED FORM 3 MEDIAL
  FORM 3 WITH SMALL V 2 TTEHEH 3 FINAL FORM 3 INITIAL FORM 3 ISOLATED FORM 3 MEDIAL FORM 2 U 3 FINAL
  FORM 3 ISOLATED FORM 3 WITH HAMZA ABOVE 6 ISOLATED FORM 2 UIGHUR KAZAKH KIRGHIZ ALEF MAKSURA
  INITIAL FORM 7 MEDIAL FORM 2 VE 3 FINAL FORM 3 ISOLATED FORM 2 VEH 3 FINAL FORM 3 INITIAL FORM 3
  ISOLATED FORM 3 MEDIAL FORM 2 WAW 3 FINAL FORM 3 ISOLATED FORM 3 WITH DOT ABOVE 5 WITHIN 4
  EXTENDED ARABIC-INDIC DIGIT THREE ABOVE 7 TWO ABOVE 4 HAMZA ABOVE 6 FINAL FORM 6 ISOLATED FORM 4
  RING 4 TWO DOTS ABOVE 2 YEH 3 BARREE 4 FINAL FORM 4 ISOLATED FORM 4 WITH EXTENDED ARABIC-INDIC
  DIGIT THREE ABOVE 8 TWO ABOVE 5 HAMZA ABOVE 7 FINAL FORM 7 ISOLATED FORM 3 FINAL FORM 3 INITIAL
  FORM 3 ISOLATED FORM 3 MEDIAL FORM 3 WITH HAMZA ABOVE 6 FINAL FORM 6 INITIAL FORM 6 ISOLATED FORM
  6 MEDIAL FORM 4 SMALL V 4 TAIL 4 THREE DOTS BELOW 4 TWO DOTS BELOW AND DOT ABOVE 8 HAMZA ABOVE 8
  SMALL NOON ABOVE 2 YU 3 FINAL FORM 3 ISOLATED FORM 2 ZAH 3 FINAL FORM 3 INITIAL FORM 3 ISOLATED
  FORM 3 MEDIAL FORM 2 ZAIN 3 FINAL FORM 3 ISOLATED FORM 3 WITH INVERTED V ABOVE 1 LIGATURE AIN WITH
  ALEF MAKSURA FINAL FORM 6 ISOLATED FORM 4 JEEM INITIAL FORM 5 ISOLATED FORM 5 WITH MEEM FINAL FORM
  7 INITIAL FORM 4 MEEM INITIAL FORM 5 ISOLATED FORM 5 WITH ALEF MAKSURA FINAL FORM 6 MEEM FINAL
  FORM 7 INITIAL FORM 6 YEH FINAL FORM 4 YEH FINAL FORM 5 ISOLATED FORM 2 AKBAR ISOLATED FORM 2
  ALAYHAA AS-SALAAM 2 ALAYHE ISOLATED FORM 2 ALAYHI AS-SALAAM 3 AS-SALAATU WAS-SALAAM 2 ALAYHIM
  AS-SALAAM 2 ALAYHIMAA AS-SALAAM 2 ALEF MAKSURA WITH SUPERSCRIPT ALEF FINAL FORM 7 ISOLATED FORM 3
  WITH FATHATAN FINAL FORM 5 ISOLATED FORM 2 ALLAH ISOLATED FORM 2 AZZA WA JALL 2 BEH WITH ALEF
  MAKSURA FINAL FORM 6 ISOLATED FORM 4 HAH INITIAL FORM 5 ISOLATED FORM 5 WITH YEH FINAL FORM 4 HEH
  INITIAL FORM 5 MEDIAL FORM 4 JEEM INITIAL FORM 5 ISOLATED FORM 4 KHAH INITIAL FORM 5 ISOLATED FORM
  5 WITH YEH FINAL FORM 4 MEEM FINAL FORM 5 INITIAL FORM 5 ISOLATED FORM 5 MEDIAL FORM 4 NOON FINAL
  FORM 4 REH FINAL FORM 4 YEH FINAL FORM 5 ISOLATED FORM 4 ZAIN FINAL FORM 2 BISMILLAH AR-RAHMAN
  AR-RAHEEM 2 DAD WITH ALEF MAKSURA FINAL FORM 6 ISOLATED FORM 4 HAH INITIAL FORM 5 ISOLATED FORM 5
  WITH ALEF MAKSURA FINAL FORM 6 YEH FINAL FORM 4 JEEM INITIAL FORM 5 ISOLATED FORM 4 KHAH INITIAL
  FORM 5 ISOLATED FORM 5 WITH MEEM FINAL FORM 7 INITIAL FORM 4 MEEM INITIAL FORM 5 ISOLATED FORM 4
  REH FINAL FORM 5 ISOLATED FORM 4 YEH FINAL FORM 5 ISOLATED FORM 2 FEH WITH ALEF MAKSURA FINAL FORM
  6 ISOLATED FORM 4 HAH INITIAL FORM 5 ISOLATED FORM 4 JEEM INITIAL FORM 5 ISOLATED FORM 4 KHAH
  INITIAL FORM 5 ISOLATED FORM 5 WITH MEEM FINAL FORM 7 INITIAL FORM 4 MEEM INITIAL FORM 5 ISOLATED
  FORM 5 WITH YEH FINAL FORM 4 YEH FINAL FORM 5 ISOLATED FORM 2 GHAIN WITH ALEF MAKSURA FINAL FORM 6
  ISOLATED FORM 4 JEEM INITIAL FORM 5 ISOLATED FORM 4 MEEM INITIAL FORM 5 ISOLATED FORM 5 WITH ALEF
  MAKSURA FINAL FORM 6 MEEM FINAL FORM 6 YEH FINAL FORM 4 YEH FINAL FORM 5 ISOLATED FORM 2 HAH WITH
  ALEF MAKSURA FINAL FORM 6 ISOLATED FORM 4 JEEM INITIAL FORM 5 ISOLATED FORM 5 WITH YEH FINAL FORM
  4 MEEM INITIAL FORM 5 ISOLATED FORM 5 WITH ALEF MAKSURA FINAL FORM 6 YEH FINAL FORM 4 YEH FINAL
  FORM 5 ISOLATED FORM 2 HEH WITH ALEF MAKSURA ISOLATED FORM 4 JEEM INITIAL FORM 5 ISOLATED FORM 4
  MEEM INITIAL FORM 5 ISOLATED FORM 5 WITH JEEM INITIAL FORM 6 MEEM INITIAL FORM 4 SUPERSCRIPT ALEF
  INITIAL FORM 4 YEH ISOLATED FORM 2 JALLAJALALOUHOU 2 JEEM WITH ALEF MAKSURA FINAL FORM 6 ISOLATED
  FORM 4 HAH INITIAL FORM 5 ISOLATED FORM 5 WITH ALEF MAKSURA FINAL FORM 6 YEH FINAL FORM 4 MEEM
  INITIAL FORM 5 ISOLATED FORM 5 WITH ALEF MAKSURA FINAL FORM 6 HAH FINAL FORM 7 INITIAL FORM 6 YEH
  FINAL FORM 4 YEH FINAL FORM 5 ISOLATED FORM 2 KAF WITH ALEF FINAL FORM 5 ISOLATED FORM 5 MAKSURA
  FINAL FORM 6 ISOLATED FORM 4 HAH INITIAL FORM 5 ISOLATED FORM 4 JEEM INITIAL FORM 5 ISOLATED FORM
  4 KHAH INITIAL FORM 5 ISOLATED FORM 4 LAM FINAL FORM 5 INITIAL FORM 5 ISOLATED FORM 5 MEDIAL FORM
  4 MEEM FINAL FORM 5 INITIAL FORM 5 ISOLATED FORM 5 MEDIAL FORM 5 WITH MEEM FINAL FORM 7 INITIAL
  FORM 6 YEH FINAL FORM 4 YEH FINAL FORM 5 ISOLATED FORM 2 KHAH WITH ALEF MAKSURA FINAL FORM 6
  ISOLATED FORM 4 HAH ISOLATED FORM 4 JEEM INITIAL FORM 5 ISOLATED FORM 4 MEEM INITIAL FORM 5
  ISOLATED FORM 4 YEH FINAL FORM 5 ISOLATED FORM 2 LAM WITH ALEF FINAL FORM 5 ISOLATED FORM 5
  MAKSURA FINAL FORM 6 ISOLATED FORM 5 WITH HAMZA ABOVE FINAL FORM 8 ISOLATED FORM 7 BELOW FINAL
  FORM 8 ISOLATED FORM 6 MADDA ABOVE FINAL FORM 8 ISOLATED FORM 4 HAH INITIAL FORM 5 ISOLATED FORM 5
  WITH ALEF MAKSURA FINAL FORM 6 MEEM FINAL FORM 7 INITIAL FORM 6 YEH FINAL FORM 4 HEH INITIAL FORM
  4 JEEM INITIAL FORM 5 ISOLATED FORM 5 WITH JEEM FINAL FORM 7 INITIAL FORM 6 MEEM FINAL FORM 7
  INITIAL FORM 6 YEH FINAL FORM 4 KHAH INITIAL FORM 5 ISOLATED FORM 5 WITH MEEM FINAL FORM 7 INITIAL
  FORM 4 MEEM FINAL FORM 5 INITIAL FORM 5 ISOLATED FORM 5 MEDIAL FORM 5 WITH HAH FINAL FORM 7
  INITIAL FORM 6 YEH FINAL FORM 4 YEH FINAL FORM 5 ISOLATED FORM 2 MEEM WITH ALEF FINAL FORM 5
  MAKSURA ISOLATED FORM 4 HAH INITIAL FORM 5 ISOLATED FORM 5 WITH JEEM INITIAL FORM 6 MEEM INITIAL
  FORM 6 YEH FINAL FORM 4 JEEM INITIAL FORM 5 ISOLATED FORM 5 WITH HAH INITIAL FORM 6 KHAH INITIAL
  FORM 6 MEEM INITIAL FORM 6 YEH FINAL FORM 4 KHAH INITIAL FORM 5 ISOLATED FORM 5 WITH JEEM INITIAL
  FORM 6 MEEM INITIAL FORM 6 YEH FINAL FORM 4 MEEM FINAL FORM 5 INITIAL FORM 5 ISOLATED FORM 5 WITH
  YEH FINAL FORM 4 YEH ISOLATED FORM 2 MOHAMMAD ISOLATED FORM 2 NOON WITH ALEF MAKSURA FINAL FORM 6
  ISOLATED FORM 4 HAH INITIAL FORM 5 ISOLATED FORM 5 WITH ALEF MAKSURA FINAL FORM 6 MEEM INITIAL
  FORM 6 YEH FINAL FORM 4 HEH INITIAL FORM 5 MEDIAL FORM 4 JEEM INITIAL FORM 5 ISOLATED FORM 5 WITH
  ALEF MAKSURA FINAL FORM 6 HAH FINAL FORM 7 INITIAL FORM 6 MEEM FINAL FORM 7 INITIAL FORM 6 YEH
  FINAL FORM 4 KHAH INITIAL FORM 5 ISOLATED FORM 4 MEEM FINAL FORM 5 INITIAL FORM 5 ISOLATED FORM 5
  MEDIAL FORM 5 WITH ALEF MAKSURA FINAL FORM 6 YEH FINAL FORM 4 NOON FINAL FORM 4 REH FINAL FORM 4
  YEH FINAL FORM 5 ISOLATED FORM 4 ZAIN FINAL FORM 2 QAF WITH ALEF MAKSURA FINAL FORM 6 ISOLATED
  FORM 4 HAH INITIAL FORM 5 ISOLATED FORM 4 MEEM INITIAL FORM 5 ISOLATED FORM 5 WITH HAH FINAL FORM
  7 INITIAL FORM 6 MEEM FINAL FORM 6 YEH FINAL FORM 4 YEH FINAL FORM 5 ISOLATED FORM 2 QALA USED AS
  KORANIC STOP SIGN ISOLATED FORM 2 QUDDISA SIRRAH 2 RADI ALLAAHU ANH 4 ANHAA 4 ANHUM 4 ANHUMAA 4
  ANHUNNA 2 RAHIMAHU ALLAAH 2 RAHIMAHUM ALLAAH 2 RASOUL ISOLATED FORM 2 REH WITH SUPERSCRIPT ALEF
  ISOLATED FORM 2 SAD WITH ALEF MAKSURA FINAL FORM 6 ISOLATED FORM 4 HAH INITIAL FORM 5 ISOLATED
  FORM 5 WITH HAH FINAL FORM 7 INITIAL FORM 6 YEH FINAL FORM 4 KHAH INITIAL FORM 4 MEEM INITIAL FORM
  5 ISOLATED FORM 5 WITH MEEM FINAL FORM 7 INITIAL FORM 4 REH FINAL FORM 5 ISOLATED FORM 4 YEH FINAL
  FORM 5 ISOLATED FORM 2 SALAAMUHU ALAYNAA 2 SALAM ISOLATED FORM 2 SALLA ISOLATED FORM 3 USED AS
  KORANIC STOP SIGN ISOLATED FORM 2 SALLALLAAHU ALAYHI WA-AALIH 2 SALLALLAHOU ALAYHE WASALLAM 2
  SALLALLAHU ALAYHI WAAALIHEE WA-SALLAM 2 SEEN WITH ALEF MAKSURA FINAL FORM 6 ISOLATED FORM 4 HAH
  INITIAL FORM 5 ISOLATED FORM 5 MEDIAL FORM 5 WITH JEEM INITIAL FORM 4 HEH INITIAL FORM 5 MEDIAL
  FORM 4 JEEM INITIAL FORM 5 ISOLATED FORM 5 MEDIAL FORM 5 WITH ALEF MAKSURA FINAL FORM 6 HAH
  INITIAL FORM 4 KHAH INITIAL FORM 5 ISOLATED FORM 5 MEDIAL FORM 5 WITH ALEF MAKSURA FINAL FORM 6
  YEH FINAL FORM 4 MEEM INITIAL FORM 5 ISOLATED FORM 5 MEDIAL FORM 5 WITH HAH FINAL FORM 7 INITIAL
  FORM 6 JEEM INITIAL FORM 6 MEEM FINAL FORM 7 INITIAL FORM 4 REH FINAL FORM 5 ISOLATED FORM 4 YEH
  FINAL FORM 5 ISOLATED FORM 2 SHADDA WITH DAMMA ISOLATED FORM 5 MEDIAL FORM 4 DAMMATAN ISOLATED
  FORM 4 FATHA ISOLATED FORM 5 MEDIAL FORM 4 KASRA ISOLATED FORM 5 MEDIAL FORM 4 KASRATAN ISOLATED
  FORM 4 SUPERSCRIPT ALEF ISOLATED FORM 2 SHEEN WITH ALEF MAKSURA FINAL FORM 6 ISOLATED FORM 4 HAH
  FINAL FORM 5 INITIAL FORM 5 ISOLATED FORM 5 MEDIAL FORM 5 WITH MEEM FINAL FORM 7 INITIAL FORM 6
  YEH FINAL FORM 4 HEH INITIAL FORM 5 MEDIAL FORM 4 JEEM FINAL FORM 5 INITIAL FORM 5 ISOLATED FORM 5
  MEDIAL FORM 5 WITH YEH FINAL FORM 4 KHAH FINAL FORM 5 INITIAL FORM 5 ISOLATED FORM 5 MEDIAL FORM 4
  MEEM FINAL FORM 5 INITIAL FORM 5 ISOLATED FORM 5 MEDIAL FORM 5 WITH KHAH FINAL FORM 7 INITIAL FORM
  6 MEEM FINAL FORM 7 INITIAL FORM 4 REH FINAL FORM 5 ISOLATED FORM 4 YEH FINAL FORM 5 ISOLATED FORM
  2 SUBHAANAHU WA TAAALAA 2 TABAARAKA WA-TAAALAA 2 TAH WITH ALEF MAKSURA FINAL FORM 6 ISOLATED FORM
  4 HAH INITIAL FORM 5 ISOLATED FORM 4 MEEM INITIAL FORM 5 ISOLATED FORM 5 MEDIAL FORM 5 WITH HAH
  FINAL FORM 7 INITIAL FORM 6 MEEM INITIAL FORM 6 YEH FINAL FORM 4 YEH FINAL FORM 5 ISOLATED FORM 2
  TEH WITH ALEF MAKSURA FINAL FORM 6 ISOLATED FORM 4 HAH INITIAL FORM 5 ISOLATED FORM 5 WITH JEEM
  FINAL FORM 7 INITIAL FORM 6 MEEM INITIAL FORM 4 HEH INITIAL FORM 5 MEDIAL FORM 4 JEEM INITIAL FORM
  5 ISOLATED FORM 5 WITH ALEF MAKSURA FINAL FORM 6 MEEM INITIAL FORM 6 YEH FINAL FORM 4 KHAH INITIAL
  FORM 5 ISOLATED FORM 5 WITH ALEF MAKSURA FINAL FORM 6 MEEM INITIAL FORM 6 YEH FINAL FORM 4 MEEM
  FINAL FORM 5 INITIAL FORM 5 ISOLATED FORM 5 MEDIAL FORM 5 WITH ALEF MAKSURA FINAL FORM 6 HAH
  INITIAL FORM 6 JEEM INITIAL FORM 6 KHAH INITIAL FORM 6 YEH FINAL FORM 4 NOON FINAL FORM 4 REH
  FINAL FORM 4 YEH FINAL FORM 5 ISOLATED FORM 4 ZAIN FINAL FORM 2 THAL WITH SUPERSCRIPT ALEF
  ISOLATED FORM 2 THEH WITH ALEF MAKSURA FINAL FORM 6 ISOLATED FORM 4 HEH MEDIAL FORM 4 JEEM
  ISOLATED FORM 4 MEEM FINAL FORM 5 INITIAL FORM 5 ISOLATED FORM 5 MEDIAL FORM 4 NOON FINAL FORM 4
  REH FINAL FORM 4 YEH FINAL FORM 5 ISOLATED FORM 4 ZAIN FINAL FORM 2 UIGHUR KIRGHIZ YEH WITH HAMZA
  ABOVE WITH ALEF MAKSURA FINAL FORM 11 INITIAL FORM 11 ISOLATED FORM 2 WASALLAM ISOLATED FORM 2 YEH
  WITH ALEF MAKSURA FINAL FORM 6 ISOLATED FORM 4 HAH INITIAL FORM 5 ISOLATED FORM 5 WITH YEH FINAL
  FORM 4 HAMZA ABOVE WITH AE FINAL FORM 8 ISOLATED FORM 7 ALEF FINAL FORM 8 ISOLATED FORM 8 MAKSURA
  FINAL FORM 9 ISOLATED FORM 7 E FINAL FORM 8 INITIAL FORM 8 ISOLATED FORM 7 HAH INITIAL FORM 8
  ISOLATED FORM 7 HEH INITIAL FORM 8 MEDIAL FORM 7 JEEM INITIAL FORM 8 ISOLATED FORM 7 KHAH INITIAL
  FORM 7 MEEM FINAL FORM 8 INITIAL FORM 8 ISOLATED FORM 8 MEDIAL FORM 7 NOON FINAL FORM 7 OE FINAL
  FORM 8 ISOLATED FORM 7 REH FINAL FORM 7 U FINAL FORM 8 ISOLATED FORM 7 WAW FINAL FORM 8 ISOLATED
  FORM 7 YEH FINAL FORM 8 ISOLATED FORM 7 YU FINAL FORM 8 ISOLATED FORM 7 ZAIN FINAL FORM 4 HEH
  INITIAL FORM 5 MEDIAL FORM 4 JEEM INITIAL FORM 5 ISOLATED FORM 5 WITH YEH FINAL FORM 4 KHAH
  INITIAL FORM 5 ISOLATED FORM 4 MEEM FINAL FORM 5 INITIAL FORM 5 ISOLATED FORM 5 MEDIAL FORM 5 WITH
  MEEM FINAL FORM 7 INITIAL FORM 6 YEH FINAL FORM 4 NOON FINAL FORM 4 REH FINAL FORM 4 YEH FINAL
  FORM 5 ISOLATED FORM 4 ZAIN FINAL FORM 2 ZAH WITH MEEM INITIAL FORM 5 ISOLATED FORM 5 MEDIAL FORM
  1 MADDA WAAJIB 1 MADDAH ABOVE 1 MARK NOON GHUNNA 2 SIDEWAYS NOON GHUNNA 1 MATHEMATICAL AIN 2 ALEF
  2 BEH 2 DAD 2 DAL 2 DOTLESS BEH 3 FEH 3 NOON 3 QAF 2 DOUBLE-STRUCK AIN 3 BEH 3 DAD 3 DAL 3 FEH 3
  GHAIN 3 HAH 3 JEEM 3 KHAH 3 LAM 3 MEEM 3 NOON 3 QAF 3 REH 3 SAD 3 SEEN 3 SHEEN 3 TAH 3 TEH 3 THAL
  3 THEH 3 WAW 3 YEH 3 ZAH 3 ZAIN 2 FEH 2 GHAIN 2 HAH 2 INITIAL AIN 3 BEH 3 DAD 3 FEH 3 GHAIN 3 HAH
  3 HEH 3 JEEM 3 KAF 3 KHAH 3 LAM 3 MEEM 3 NOON 3 QAF 3 SAD 3 SEEN 3 SHEEN 3 TEH 3 THEH 3 YEH 2 JEEM
  2 KAF 2 KHAH 2 LAM 2 LOOPED AIN 3 ALEF 3 BEH 3 DAD 3 DAL 3 FEH 3 GHAIN 3 HAH 3 HEH 3 JEEM 3 KHAH 3
  LAM 3 MEEM 3 NOON 3 QAF 3 REH 3 SAD 3 SEEN 3 SHEEN 3 TAH 3 TEH 3 THAL 3 THEH 3 WAW 3 YEH 3 ZAH 3
  ZAIN 2 MEEM 2 NOON 2 OPERATOR HAH WITH DAL 3 MEEM WITH HAH WITH TATWEEL 2 QAF 2 REH 2 SAD 2 SEEN 2
  SHEEN 2 STRETCHED AIN 3 BEH 3 DAD 3 DOTLESS BEH 4 FEH 3 FEH 3 GHAIN 3 HAH 3 HEH 3 JEEM 3 KAF 3
  KHAH 3 MEEM 3 NOON 3 QAF 3 SAD 3 SEEN 3 SHEEN 3 TAH 3 TEH 3 THEH 3 YEH 3 ZAH 2 TAH 2 TAILED AIN 3
  DAD 3 DOTLESS NOON 4 QAF 3 GHAIN 3 HAH 3 JEEM 3 KHAH 3 LAM 3 NOON 3 QAF 3 SAD 3 SEEN 3 SHEEN 3 YEH
  2 TEH 2 THAL 2 THEH 2 WAW 2 YEH 2 ZAH 2 ZAIN 1 NUMBER MARK ABOVE 2 SIGN 1 OPEN DAMMATAN 2 FATHATAN
  2 KASRATAN 1 PERCENT SIGN 1 PIASTRE MARK ABOVE 1 PLACE OF SAJDAH 1 POETIC VERSE SIGN 1 POUND MARK
  ABOVE 1 QUESTION MARK 1 RAISED ROUND DOT 1 RAY 1 REVERSED DAMMA 1 RIGHT ARROWHEAD ABOVE 4 WITH DOT
  3 BELOW 1 ROUNDED HIGH STOP WITH FILLED CENTRE 1 SEMICOLON 1 SHADDA 2 ISOLATED FORM 2 MEDIAL FORM
  1 SIGN ALAYHE ASSALLAM 2 MISRA 2 RADI ALLAHOU ANHU 2 RAHMATULLAH ALAYHE 2 SAFHA 2 SALLALLAHOU
  ALAYHE WASSALLAM 2 SAMVAT 2 SANAH 2 SINDHI AMPERSAND 3 POSTPOSITION MEN 2 TAKHALLUS 1 SMALL DAMMA
  2 FARSI YEH 2 FATHA 2 HIGH AIN 3 DOTLESS HEAD OF KHAH 3 FARSI YEH 3 FOOTNOTE MARKER 3 JEEM 3 LAM
  ALEF 3 LIGATURE ALEF WITH LAM WITH YEH 4 QAF WITH LAM WITH ALEF MAKSURA 4 SAD WITH LAM WITH ALEF
  MAKSURA 3 MADDA 3 MEEM INITIAL FORM 4 ISOLATED FORM 3 NOON 4 WITH KASRA 3 QAF 3 ROUNDED ZERO 3 SAD
  3 SEEN 3 SIGN SAFHA 3 TAH 3 THREE DOTS 3 UPRIGHT RECTANGULAR ZERO 3 WAW 3 WORD AL-JUZ 4 AN-NISF 4
  AR-RUB 4 AS-SAJDA 4 ATH-THALATHA 4 QIF 4 SAH 4 SAKTA 4 WAQFA 3 YEH 4 BARREE WITH TWO DOTS BELOW 3
  ZAH 3 ZAIN 2 KASRA 2 LOW MEEM 3 NOON WITH KASRA 3 SEEN 3 WAW 3 WORD IMAALA 4 ISHMAAM 4 TASHEEL 2
  WAW 2 YEH 1 START OF RUB EL HIZB 1 SUBSCRIPT ALEF 1 SUKUN 2 BELOW 2 ISOLATED FORM 2 MEDIAL FORM 1
  SUPERSCRIPT ALEF MOKHASSAS 1 SYMBOL DOT ABOVE 3 BELOW 2 DOUBLE VERTICAL BAR BELOW 2 FOUR DOTS
  ABOVE 4 BELOW 2 RING 2 SMALL TAH ABOVE 4 BELOW 2 THREE DOTS ABOVE 4 BELOW 4 POINTING DOWNWARDS
  ABOVE 6 BELOW 2 TWO DOTS ABOVE 4 BELOW 4 VERTICALLY ABOVE 5 BELOW 2 WASLA ABOVE 1 TAIL FRAGMENT 1
  TATWEEL 2 WITH FATHATAN ABOVE 3 OVERSTRUCK HAMZA 4 WAW 3 TWO DOTS BELOW 1 THOUSANDS SEPARATOR 1
  TONE LOOP ABOVE 3 BELOW 2 ONE DOT ABOVE 4 BELOW 2 TWO DOTS ABOVE 4 BELOW 1 TRIPLE DOT PUNCTUATION
  MARK 1 TURNED DAMMA BELOW 1 VERTICAL TAIL 1 VOWEL SIGN DOT BELOW 3 INVERTED SMALL V ABOVE 3 SMALL
  V ABOVE 1 WAVY HAMZA BELOW 1 ZWARAKAY 0 ARABIC-INDIC CUBE ROOT 1 DIGIT EIGHT 2 FIVE 2 FOUR 2 NINE
  2 ONE 2 SEVEN 2 SIX 2 THREE 2 TWO 2 ZERO 1 FOURTH ROOT 1 PER MILLE SIGN 2 TEN THOUSAND SIGN 0 ARC
  0 ARIES 0 ARMENIAN ABBREVIATION MARK 1 APOSTROPHE 1 CAPITAL LETTER AYB 3 BEN 3 CA 3 CHA 3 CHEH 3
  CO 3 DA 3 ECH 3 EH 3 ET 3 FEH 3 GHAD 3 GIM 3 HO 3 INI 3 JA 3 JHEH 3 KEH 3 KEN 3 LIWN 3 MEN 3 NOW 3
  OH 3 PEH 3 PIWR 3 RA 3 REH 3 SEH 3 SHA 3 TIWN 3 TO 3 VEW 3 VO 3 XEH 3 YI 3 YIWN 3 ZA 3 ZHE 1 COMMA
  1 DRAM SIGN 1 EMPHASIS MARK 1 EXCLAMATION MARK 1 FULL STOP 1 HYPHEN 1 MODIFIER LETTER LEFT HALF
  RING 1 QUESTION MARK 1 SMALL LETTER AYB 3 BEN 3 CA 3 CHA 3 CHEH 3 CO 3 DA 3 ECH 3 EH 3 ET 3 FEH 3
  GHAD 3 GIM 3 HO 3 INI 3 JA 3 JHEH 3 KEH 3 KEN 3 LIWN 3 MEN 3 NOW 3 OH 3 PEH 3 PIWR 3 RA 3 REH 3
  SEH 3 SHA 3 TIWN 3 TO 3 TURNED AYB 3 VEW 3 VO 3 XEH 3 YI 4 WITH STROKE 3 YIWN 3 ZA 3 ZHE 2
  LIGATURE ECH YIWN 3 MEN ECH 4 INI 4 NOW 4 XEH 3 VEW NOW 0 ARROW POINTING DOWNWARDS THEN CURVING
  LEFTWARDS 5 RIGHTWARDS 2 RIGHTWARDS THEN CURVING DOWNWARDS 5 SOUTH WEST 5 UPWARDS 2 UPWARDS THEN
  NORTH WEST 0 ARROWHEAD-SHAPED POINTER 0 ARTICULATED LORRY 0 ARTIST PALETTE 0 ASCENDING NODE 0
  ASCIA SYMBOL 0 ASSERTION 0 ASTERISK 1 OPERATOR 0 ASTERISM 0 ASTONISHED FACE 0 ASTRAEA 0
  ASTRONOMICAL SYMBOL FOR URANUS 0 ASYMPTOTICALLY EQUAL TO 0 ATHLETIC SHOE 0 ATOM SYMBOL 0 AUBERGINE
  0 AUSTRAL SIGN 0 AUTO RICKSHAW 0 AUTOMATED TELLER MACHINE 0 AUTOMOBILE 0 AVESTAN ABBREVIATION MARK
  1 LETTER A 2 AA 2 AAN 2 AAO 2 AE 2 AEE 2 AN 2 AO 2 BE 2 BHE 2 CE 2 DE 2 DHE 2 E 2 EE 2 FE 2 GE 2
  GGE 2 GHE 2 HE 2 HME 2 I 2 II 2 JE 2 KE 2 LE 2 ME 2 NE 2 NGE 2 NGVE 2 NGYE 2 NNE 2 NYE 2 O 2 OO 2
  PE 2 RE 2 SE 2 SHE 2 SHYE 2 SSHE 2 TE 2 THE 2 TTE 2 U 2 UU 2 VE 2 XE 2 XVE 2 XYE 2 YE 2 YYE 2 ZE 2
  ZHE 0 AVOCADO 0 AXE 0 BABY 1 ANGEL 1 BOTTLE 1 CHICK 1 SYMBOL 0 BACK OF ENVELOPE 1 WITH LEFTWARDS
  ARROW ABOVE 0 BACK-TILTED SHADOWED WHITE RIGHTWARDS ARROW 0 BACKSLANTED SOUTH ARROW WITH HOOKED
  TAIL 4 HORIZONTAL TAIL 0 BACKSPACE 0 BACON 0 BACTRIAN CAMEL 0 BADGER 0 BADMINTON RACQUET AND
  SHUTTLECOCK 0 BAGEL 0 BAGGAGE CLAIM 0 BAGUETTE BREAD 0 BALINESE ADEG ADEG 1 CARIK PAMUNGKAH 2
  PAREREN 2 SIKI 1 DIGIT EIGHT 2 FIVE 2 FOUR 2 NINE 2 ONE 2 SEVEN 2 SIX 2 THREE 2 TWO 2 ZERO 1
  LETTER AIKARA 2 AKARA 3 TEDUNG 2 ARCHAIC JNYA 2 ASYURA SASAK 2 BA 3 KEMBANG 2 CA 3 LACA 2 DA 3
  MADU 3 MURDA ALPAPRANA 4 MAHAPRANA 2 EF SASAK 2 EKARA 2 GA 3 GORA 2 HA 2 IKARA 3 TEDUNG 2 JA 3
  JERA 2 KA 3 MAHAPRANA 2 KAF SASAK 2 KHOT SASAK 2 LA 3 LENGA 4 TEDUNG 2 MA 2 NA 3 RAMBAT 2 NGA 2
  NYA 2 OKARA 3 TEDUNG 2 PA 3 KAPAL 2 RA 3 REPA 4 TEDUNG 2 SA 3 SAGA 3 SAPA 2 TA 3 LATIK 3 MURDA
  MAHAPRANA 3 TAWA 2 TZIR SASAK 2 UKARA 3 TEDUNG 2 VE SASAK 2 WA 2 YA 2 ZAL SASAK 1 MUSICAL SYMBOL
  COMBINING BENDE 4 ENDEP 4 GONG 4 JEGOGAN 4 KEMPLI 5 WITH JEGOGAN 4 KEMPUL 5 WITH JEGOGAN 4 TEGEH 3
  DAENG 3 DAING 3 DANG 4 GEDE 4 SURANG 3 DENG 3 DEUNG 3 DING 3 DONG 3 DUNG 3 LEFT-HAND CLOSED PLAK 5
  PLUK 4 OPEN PANG 5 PING 5 PUNG 3 RIGHT-HAND CLOSED TAK 5 TUK 4 OPEN DAG 5 DUG 1 PAMADA 2 LANTANG 1
  PAMENENG 1 PANTI 2 LANTANG 1 SIGN BISAH 2 CECEK 2 REREKAN 2 SURANG 2 ULU CANDRA 3 RICEM 1 VOWEL
  SIGN LA LENGA 5 TEDUNG 3 PEPET 4 TEDUNG 3 RA REPA 5 TEDUNG 3 SUKU 4 ILUT 3 TALING 4 REPA 5 TEDUNG
  4 TEDUNG 3 TEDUNG 3 ULU 4 SARI 1 WINDU 0 BALL OF YARN 0 BALLET SHOES 0 BALLOON 0 BALLOON-SPOKED
  ASTERISK 0 BALLOT BOLD SCRIPT X 1 BOX 2 WITH BALLOT 3 BOLD CHECK 4 SCRIPT X 3 CHECK 3 LIGHT X 3
  SCRIPT X 3 X 1 SCRIPT X 1 X 0 BAMUM COLON 1 COMBINING MARK KOQNDON 3 TUKWENTIS 1 COMMA 1 FULL STOP
  1 LETTER A 2 EE 2 FAAMAE 2 FEE 2 FOM 2 FU 2 I 2 KA 2 KEN 2 KET 2 KEUX 2 KI 2 KO 2 KOGHOM 2 KOVUU 2
  KPA 2 KU 2 KYEE 2 LA 2 LEEEE 2 LI 2 LOQ 2 LU 2 M 2 MA 2 MBAA 2 MBEN 2 MEEEE 2 MEN 2 MI 2 MO 2 MU 2
  NA 2 NDAA 2 NGA 2 NGGA 2 NGKWAEN 2 NI 2 NJAEM 2 NJEE 2 NJUAE 2 NSHA 2 NTEE 2 NTUU 2 NU 2 NUAE 2
  NYI 2 O 2 PA 2 PEE 2 PEUX 2 PHASE-A FIRI 3 GBIEE FON 3 GHEUAEGHEUAE 3 GHEUAERAE 3 KAFA 3 KAQ 3 KET
  3 KEUKEUTNDA 3 KPOQ 3 KUOQ 3 LAPAQ 3 LET KUT 3 LOMMAE 3 LU 3 LUAEP 3 MAEKEUP 3 MAEM 3 MAEMBGBIEE 3
  MAEMKPEN 3 MAEMVEUX 3 MAENYI 3 MAESI 3 MANSUAE 3 MAP PIEET 3 MBANYI 3 MBAQ 3 MEUNJOMNDEUQ 3 MGBASA
  3 MON NGGEUAET 3 MOOMEUT 3 MOOMPUQ 3 MVEUAENGAM 3 NAA MFON 3 NAQ 3 NDA LEERAEWA 3 NDAANGGEUAET 3
  NEN 3 NGANGU 3 NGGEN 3 NGKUE MFON 3 NGKUENZEUM 3 NIKA 3 NJAM 3 NKAARAE 3 NKINDI 3 NSHA 3 NSHIEE 3
  NTAP 4 MFAA 4 NTAA 3 NTOQPEN 3 NYET 3 NYI 3 NYIT MONGKEUAEQ 3 NZA MFON 3 NZUN MEUT 3 PA LEERAEWA 3
  PAAM 3 PAARAE 3 PAMSHAE 3 PASHAE 3 PET 3 PON MFON PIPAEMBA 5 PIPAEMGBIEE 4 PA NJI PIPAEMBA 6
  PIPAEMGBIEE 3 PUP 3 ROM 3 SEUNYAM 3 SHINDA PA NJI 3 SHIRAE 3 SHOQ NSHUT YUM 3 SHUENSHUET 3 SHUM 3
  SISA 3 SONJAM 3 SOQ 3 SOT 3 SUU 3 TEUAEN 3 TEUTEUWEN 3 TITA MFON 3 TU MAEMBA 3 TUAEP 3 U YUQ NAE 3
  UNKNOWN 3 VEE 2 PHASE-B FEE 3 FEUX 3 GHEUGHEN 3 GHEUGHEUAEM 3 KAM 3 KEUAEM 3 KEUPUQ 3 KEUYEUX 3
  KIEEM 3 KIQ 3 LAANAE 3 LAM NSHUT NYAM 3 LET 3 LOM NTEUM 3 MA 4 NJEUAENA 4 NJUQA 3 MBA MAELEE 3
  MBAARAE 3 MBEURI 3 MBIT MBAAKET 3 MBUOQ 3 MEUQ 3 MEUT NGGEET 3 MFIYAQ 3 MFON TEUAEQ 3 MONTIEEN 3
  NDU NJAA 3 NGGAAM 3 NGGEU MBU 3 NGGUOQ 4 LARGE 3 NGKINDI MVOP 3 NGOM 3 NSEN 3 NSHUET 3 NTIEE
  SHEUOQ 3 NYAEMAE 3 NYI NTEUM 3 PARUM 3 PEESHI 3 PIT 3 PUNGAAM 3 SAKEUAE 3 SET TU 3 SHET NJAQ 3
  SHEUAEQTU 3 SIEE 3 SUE 3 TAAM 3 TU MAEMGBIEE 4 NSIEE 3 VEUM 3 WUAET 3 YAFU LEERAEWA 3 YEURAE 2
  PHASE-C BUNG 3 FUE 3 GBAYI 3 GHAP 3 GHARAE 3 KAA 3 KEN FATIGUE 4 LAW 3 KET 3 KEUKAQ 3 KEUM 3
  KEUSEUX 3 KEUSHEUAEP 3 KPARAQ 3 KUOP NKAARAE 3 KUT 3 LAM 3 LAP 3 LIQ 3 LU 3 MA KEUAERI 4 NSIEE 3
  MAEMBA 3 MAESI 3 MBAA CABBAGE-TREE 4 PICKET 3 MBANYI 3 MBEEKEET 3 MBERAE 3 MBEUM 3 MBEUX 3 MBI 3
  MBIRIEEN 3 MBIT 3 MBUAEM 3 MBUE 3 MGBASAQ 3 MIEE 3 MUAE 3 NANSANAQ 3 NAQ 3 NDAM 3 NDAP 3 NDEUAEREE
  3 NDEUT 3 NDIDA 3 NDOMBU 3 NGAQ 3 NGGEN 3 NGGU 3 NGGUAEN NYAM 3 NGGUEET 3 NGGUM 3 NGGUON 3 NGKAQ 3
  NGKUE MAEMBA 3 NGOM 3 NJAEM 3 NJAM 3 NJEEEE 3 NJEUX 3 NJUEQ 3 NSA 3 NSEUAEN 3 NSHAQ 3 NSOM 3 NSUN
  3 NSUOT NGOM 3 NTAA 3 NTEN 3 NTEUNGBA 3 NTU MBIT 3 NYIR MKPARAQ MEUN 3 NZA 3 NZEUM 3 PEN 3 PIN 3
  PIRIEEN 3 RU 3 SETFON 3 SEUX 3 SHIQ 3 SHUEQ 3 SUAET 3 TAASHAE 3 TET 3 TEUTEUX 3 TITA YUE 3 TITUAEP
  3 VEUAEPEN 3 VEUX 3 WANGKUOQ 3 WUP 3 YAA 3 YEUQ 3 YU MUOMAE 3 YUM 3 YUWOQ 2 PHASE-D FAA 3
  FEUFEUAET 3 GHAA 3 GHEUAE 3 KET 3 KEUAETMEUN 3 KEUM 3 KEUOT MBUAE 3 KEUP 3 KU 3 KUN 3 KUOM 3 KUQ 3
  KWAET 3 KYEE 3 LEEEE 3 LET 3 LEUAEP 3 LEUM 3 LIEE 3 LOQ 3 LUM 3 M 3 MAENJET 3 MALEERI 3 MBAA 4
  SEVEN 3 MBUO 3 MEEEE 3 MEUN 3 MEUT 3 MFEUAE 3 MFEUT 3 MFIEE 3 MFO 3 MFON 3 MGBEUN 3 MGBIEE 3
  MGBOFUM 3 MONI 3 MU 3 MVOP 3 NDAM 3 NDEE 3 NDEUX 3 NDON 3 NGGAAM 3 NGGAAMAE 3 NGGAP 3 NGGEUX 3
  NGGUOM 3 NGGWAEN 3 NGKAP 3 NGKEUAEQ 3 NGKEURI 3 NGKIEE 3 NGKUN 3 NGKYEE 3 NI 3 NJAP 3 NJEUAEM 3
  NJEUT 3 NJI 3 NJIEE 3 NJUEQ 3 NSHEE 3 NSHUT 3 NSIEEP 3 NSIEET 3 NSUM 3 NTEE 3 NTEUM 3 NTUU 3 NU 3
  NYAM 3 NYET 3 NYI 3 NYUE 3 PAP 3 PEE 3 PEUTAE 3 PIP 3 PUQ 3 PUUT 3 RAEM 3 REN MUCH 4 OLD 3 RII 3
  SAP 3 SAQ 3 SEUAEQ 3 SHEE 3 SHEUAE 3 SHEUX 3 SHII 3 SHOQ 3 SHU 3 SOT 3 SUAE 3 SUE 3 SUU 3 TAE 3
  TEEEE 3 TEUAEN 3 TEUN 3 TEUT 3 TI 3 TOQ 3 TU 3 TUOT 3 WAP 3 WUAEN 3 YAEMMAE 3 YEN 3 YUOM 3 YUOP 3
  YUWOQ 2 PHASE-E A 3 FA 3 FAQ 3 FEE 3 FOM 3 FU CALL 4 I 4 REMEDY 3 FUE 3 FUET 3 GBET 3 GBEUX 3
  GHAAMAE 3 GHET 3 GHEUAE 3 GHEUN 3 GHEUX 3 GHOM 3 I 3 KET 3 KEUAE 3 KEUX 3 KI 3 KO 3 KPEUX 3 KUET 3
  KUOP 3 KUT 3 LAAM 3 LAP 3 LAQ 3 LEUAEM 3 LOM 3 LOON 3 LOOT 3 LOQ 3 LU 3 MA 3 MAE 3 MAEM 3 MAP 3
  MAQ 3 MBEE 3 MBEUM 3 MEN 3 MFEUQ 3 MGBA 3 MGBEN 3 MI 3 MIEE 3 MON 3 MUAE 3 MVI 3 NA 3 NAE 3 NDAA
  MY HOUSE 4 SOFTNESS 3 NDAP 3 NDIAQ 3 NDIQ 3 NDUN 3 NGA 3 NGEUREUT 3 NGGEEEE 3 NGGEUAE 3 NGGEUAET 3
  NGGUAESHAE NYAM 3 NGGUP 3 NGGURAE 3 NGKA 3 NGKAAMI 3 NGKEUAEM 3 NGKEUX 3 NGKUM 3 NGKUP 3 NGOP 3
  NGOQ 3 NGUAE 3 NGUAET 3 NJAEMLI 3 NJEE 4 EPOCH 3 NJEUX 3 NKOM 3 NSHIEE 3 NSHUE 3 NSHUOP 3 NTAP 3
  NTUM 3 NYI BETWEEN 4 CLEAVER 3 NZAQ 3 NZUQ 3 O 3 PA PEOPLE 4 PLURAL 3 PAA 3 PAAM 3 PEEM 3 PEUT 3
  PEUX 3 PI 3 PIEEQ 3 PIET 3 PO 3 POON 3 PU 3 PUAE 3 PUAQ 3 PUE 3 PUM 3 RAE 3 RAQ 3 REUX 3 RIMGBA 3
  SAA 3 SEE 3 SET 3 SHEUAEQ 3 SHIQ 3 SHO 3 SHOQ 3 SOM 3 SUAEN 3 TAA 3 TAAQ 3 TAEN NTEUM 3 TAM 3 TAQ
  3 TEN 3 TEU 3 TEUAEQ 3 TOO 3 TOON 3 TOQ 3 TUAE 3 TUM 3 TUMAE 3 VEE 3 VEUAE 3 VOM 3 WEUX 3 WUE 3
  WUO 3 YAP 3 YEUAE 3 YEUAET 3 YEUM 3 YEUX 3 YIEE 3 YIT 3 YOQ COVER 4 SWIMMING 3 YUAEN 3 YUEQ 3 YUN
  3 YUQ 2 PHASE-F EE 3 FOM 3 KA 3 KEN 3 KET 3 KO 3 KPA 3 KU 3 KYEE 3 LA 3 LI 3 LOQ 3 M 3 MA 3 MBAA 3
  MBEN 3 MEEEE 3 MO 3 NDAA 3 NGGA 3 NGKWAEN 3 NI 3 NJAEM 3 NJUAE 3 NSHA 3 NTEE 3 NU 3 NUAE 3 NYI 3
  PEE 3 PEUX 3 PUAE 3 REE 3 REN 3 REUX 3 RIEE 3 RII 3 RU 3 SAMBA 3 SEUX 3 SHII 3 SHO 3 SHU 3 SI 3
  SUU 3 TAA 3 TAE 3 TET 3 U 3 VUEQ 3 WA 3 WUE 3 YA 3 YOQ 2 PI 2 PUAE 2 PUE 2 RAE 2 REE 2 REN 2 REUX
  2 RIEE 2 RII 2 RU 2 SAMBA 2 SEUX 2 SHEUX 2 SHII 2 SHO 2 SHU 2 SI 2 SUU 2 TAA 2 TAE 2 TEN 2 TET 2
  TI 2 U 2 WA 2 WUE 2 YA 2 YOQ 2 YUQ 1 NJAEMLI 1 QUESTION MARK 1 SEMICOLON 0 BANANA 0 BANJO 0 BANK 0
  BANKNOTE WITH DOLLAR SIGN 2 EURO SIGN 2 POUND SIGN 2 YEN SIGN 0 BAR CHART 1 OF SOAP 0 BARBER POLE
  0 BASEBALL 0 BASKET 0 BASKETBALL AND HOOP 0 BASSA VAH COMBINING HIGH TONE 3 HIGH-LOW TONE 3 LOW
  TONE 3 LOW-MID TONE 3 MID TONE 2 FULL STOP 2 LETTER A 3 BA 3 CE 3 DHII 3 DO 3 E 3 EE 3 ENNI 3 FA 3
  GAH 3 GBU 3 HWAH 3 I 3 JO 3 KA 3 KPAH 3 MBE 3 O 3 OO 3 PA 3 SE 3 TO 3 U 3 UWU 3 VU 3 WA 3 WADDA 3
  YEIN 3 YIE 3 ZO 0 BAT 0 BATAK CONSONANT SIGN H 3 NG 1 LETTER A 2 BA 2 CA 2 DA 2 GA 2 HA 2 I 2 JA 2
  KARO BA 2 LA 2 MA 2 MANDAILING HA 3 NA 3 SA 2 MBA 2 NA 2 NDA 2 NGA 2 NORTHERN TA 2 NYA 2 PA 2
  PAKPAK WA 2 RA 2 SA 2 SIMALUNGUN A 3 GA 3 HA 3 LA 3 MA 3 PA 3 RA 3 SA 3 WA 3 YA 2 SOUTHERN TA 2 U
  2 WA 2 YA 1 PANGOLAT 1 PANONGONAN 1 SIGN TOMPI 1 SYMBOL BINDU JUDUL 3 NA METEK 3 PANGOLAT 3
  PINARBORAS 1 VOWEL SIGN E 3 EE 3 I 3 KARO I 4 O 3 O 3 PAKPAK E 3 U 4 FOR SIMALUNGUN SA 0 BATH 0
  BATHTUB 0 BATTERY 0 BEACH WITH UMBRELLA 0 BEAMED ASCENDING MUSICAL NOTES 1 DESCENDING MUSICAL
  NOTES 1 EIGHTH NOTES 1 SIXTEENTH NOTES 0 BEANS 0 BEAR FACE 0 BEARDED PERSON 0 BEATING HEART 0
  BEAVER 0 BECAUSE 0 BED 0 BEER MUG 0 BEETLE 0 BEL 0 BELL 1 PEPPER 1 SYMBOL 1 WITH CANCELLATION
  STROKE 0 BELLHOP BELL 0 BENGALI ABBREVIATION SIGN 1 ANJI 1 AU LENGTH MARK 1 CURRENCY DENOMINATOR
  SIXTEEN 2 NUMERATOR FOUR 3 ONE 4 LESS THAN THE DENOMINATOR 3 THREE 3 TWO 1 DIGIT EIGHT 2 FIVE 2
  FOUR 2 NINE 2 ONE 2 SEVEN 2 SIX 2 THREE 2 TWO 2 ZERO 1 GANDA MARK 1 ISSHAR 1 LETTER A 2 AA 2 AI 2
  AU 2 BA 2 BHA 2 CA 2 CHA 2 DA 2 DDA 2 DDHA 2 DHA 2 E 2 GA 2 GHA 2 HA 2 I 2 II 2 JA 2 JHA 2 KA 2
  KHA 2 KHANDA TA 2 LA 2 MA 2 NA 2 NGA 2 NNA 2 NYA 2 O 2 PA 2 PHA 2 RA 3 WITH LOWER DIAGONAL 4
  MIDDLE DIAGONAL 2 RHA 2 RRA 2 SA 2 SHA 2 SSA 2 TA 2 THA 2 TTA 2 TTHA 2 U 2 UU 2 VEDIC ANUSVARA 2
  VOCALIC L 3 LL 3 R 3 RR 2 YA 2 YYA 1 RUPEE MARK 2 SIGN 1 SANDHI MARK 1 SIGN ANUSVARA 2 AVAGRAHA 2
  CANDRABINDU 2 NUKTA 2 VIRAMA 2 VISARGA 1 VOWEL SIGN AA 3 AI 3 AU 3 E 3 I 3 II 3 O 3 U 3 UU 3
  VOCALIC L 4 LL 4 R 4 RR 0 BENT ARROW POINTING DOWNWARDS THEN NORTH EAST 0 BENTO BOX 0 BENZENE RING
  2 WITH CIRCLE 0 BET SYMBOL 0 BETWEEN 0 BEVERAGE BOX 0 BHAIKSUKI DANDA 1 DIGIT EIGHT 2 FIVE 2 FOUR
  2 NINE 2 ONE 2 SEVEN 2 SIX 2 THREE 2 TWO 2 ZERO 1 DOUBLE DANDA 1 GAP FILLER-1 2 FILLER-2 1
  HUNDREDS UNIT MARK 1 LETTER A 2 AA 2 AI 2 AU 2 BA 2 BHA 2 CA 2 CHA 2 DA 2 DDA 2 DDHA 2 DHA 2 E 2
  GA 2 GHA 2 HA 2 I 2 II 2 JA 2 JHA 2 KA 2 KHA 2 LA 2 MA 2 NA 2 NGA 2 NNA 2 NYA 2 O 2 PA 2 PHA 2 RA
  2 SA 2 SHA 2 SSA 2 TA 2 THA 2 TTA 2 TTHA 2 U 2 UU 2 VA 2 VOCALIC L 3 R 3 RR 2 YA 1 NUMBER EIGHT 2
  EIGHTY 2 FIFTY 2 FIVE 2 FORTY 2 FOUR 2 NINE 2 NINETY 2 ONE 2 SEVEN 2 SEVENTY 2 SIX 2 SIXTY 2 TEN 2
  THIRTY 2 THREE 2 TWENTY 2 TWO 1 SIGN ANUSVARA 2 AVAGRAHA 2 CANDRABINDU 2 VIRAMA 2 VISARGA 1 VOWEL
  SIGN AA 3 AI 3 AU 3 E 3 I 3 II 3 O 3 U 3 UU 3 VOCALIC L 4 R 4 RR 1 WORD SEPARATOR 0 BICYCLE 0
  BICYCLIST 0 BIG REVERSE SOLIDUS 1 SOLIDUS 0 BIKINI 0 BILLED CAP 0 BILLIARDS 0 BIOHAZARD SIGN 0
  BIRD 0 BIRTHDAY CAKE 0 BISON 0 BITCOIN SIGN 0 BITING LIP 0 BLACK BOWTIE 1 CENTRE WHITE STAR 1
  CHESS BISHOP 3 ROTATED NINETY DEGREES 4 TWO HUNDRED SEVENTY DEGREES 2 EQUIHOPPER 3 ROTATED NINETY
  DEGREES 2 KING 3 ROTATED NINETY DEGREES 4 TWO HUNDRED SEVENTY DEGREES 2 KNIGHT 3 ROTATED
  FORTY-FIVE DEGREES 4 NINETY DEGREES 4 ONE HUNDRED THIRTY-FIVE DEGREES 4 THREE HUNDRED FIFTEEN
  DEGREES 4 TWO HUNDRED SEVENTY DEGREES 6 TWENTY-FIVE DEGREES 2 KNIGHT-BISHOP 2 KNIGHT-QUEEN 2
  KNIGHT-ROOK 2 PAWN 3 ROTATED NINETY DEGREES 4 TWO HUNDRED SEVENTY DEGREES 2 QUEEN 3 ROTATED NINETY
  DEGREES 4 TWO HUNDRED SEVENTY DEGREES 2 ROOK 3 ROTATED NINETY DEGREES 4 TWO HUNDRED SEVENTY
  DEGREES 2 TURNED BISHOP 3 KING 3 KNIGHT 3 PAWN 3 QUEEN 3 ROOK 1 CIRCLE 2 FOR RECORD 2 WITH DOWN
  ARROW 3 TWO WHITE DOTS 3 WHITE DOT RIGHT 1 CLUB SUIT 1 CROSS ON SHIELD 1 CURVED DOWNWARDS AND
  LEFTWARDS ARROW 4 RIGHTWARDS ARROW 2 LEFTWARDS AND DOWNWARDS ARROW 4 UPWARDS ARROW 2 RIGHTWARDS
  AND DOWNWARDS ARROW 4 UPWARDS ARROW 2 UPWARDS AND LEFTWARDS ARROW 4 RIGHTWARDS ARROW 1 DIAMOND 2
  CENTRED 2 MINUS WHITE X 2 ON CROSS 2 SUIT 2 WITH DOWN ARROW 1 DOWN POINTING BACKHAND INDEX 1
  DOWN-POINTING DOUBLE TRIANGLE 2 ISOSCELES RIGHT TRIANGLE 2 SMALL TRIANGLE 2 TRIANGLE 1 DOWNWARDS
  EQUILATERAL ARROWHEAD 1 DRAUGHTS KING 2 MAN 1 DROPLET 1 FLAG 1 FLORETTE 1 FOLDER 1 FOUR POINTED
  STAR 1 HARD SHELL FLOPPY DISK 1 HEART 2 SUIT 1 HEXAGON 1 HORIZONTAL ELLIPSE 1 HOURGLASS 1 LARGE
  CIRCLE 2 SQUARE 1 LEFT LANE MERGE 2 POINTING BACKHAND INDEX 3 INDEX 1 LEFT-POINTING DOUBLE
  TRIANGLE 4 WITH VERTICAL BAR 2 ISOSCELES RIGHT TRIANGLE 2 POINTER 2 SMALL TRIANGLE 2 TRIANGLE 1
  LEFTWARDS BULLET 2 EQUILATERAL ARROWHEAD 1 LOWER LEFT TRIANGLE 2 RIGHT TRIANGLE 1 LOZENGE 1 MEDIUM
  DIAMOND 2 DOWN-POINTING TRIANGLE 4 CENTRED 2 LEFT-POINTING TRIANGLE 4 CENTRED 2 LOZENGE 2
  RIGHT-POINTING TRIANGLE 4 CENTRED 2 SMALL DIAMOND 3 LOZENGE 3 SQUARE 2 SQUARE 2 UP-POINTING
  TRIANGLE 4 CENTRED 1 MOON LILITH 1 NIB 1 OCTAGON 1 PARALLELOGRAM 1 PENNANT 1 PENTAGON 1 PUSHPIN 1
  QUESTION MARK ORNAMENT 1 RECTANGLE 1 RIGHT POINTING BACKHAND INDEX 3 INDEX 1 RIGHT-POINTING DOUBLE
  TRIANGLE 4 WITH VERTICAL BAR 2 ISOSCELES RIGHT TRIANGLE 2 PENTAGON 2 POINTER 2 SMALL TRIANGLE 2
  TRIANGLE 3 WITH DOUBLE VERTICAL BAR 1 RIGHTWARDS ARROW 2 ARROWHEAD 2 BULLET 2 EQUILATERAL
  ARROWHEAD 1 ROSETTE 1 SAFETY SCISSORS 1 SCISSORS 1 SHOGI PIECE 1 SKULL AND CROSSBONES 1 SLIGHTLY
  SMALL CIRCLE 3 SQUARE 1 SMALL DIAMOND 2 LOZENGE 2 SQUARE 2 STAR 1 SMILING FACE 1 SNOWMAN 1 SPADE
  SUIT 1 SQUARE 2 BUTTON 2 CENTRED 2 FOR STOP 1 STAR 1 SUN WITH RAYS 1 TELEPHONE 1 TINY DIAMOND 2
  LOZENGE 2 SQUARE 1 TOUCHTONE TELEPHONE 1 TRUCK 1 TWO-WAY LEFT WAY TRAFFIC 1 UNIVERSAL RECYCLING
  SYMBOL 1 UP POINTING BACKHAND INDEX 1 UP-POINTING DOUBLE TRIANGLE 2 ISOSCELES RIGHT TRIANGLE 2
  SMALL TRIANGLE 2 TRIANGLE 1 UPPER LEFT TRIANGLE 2 RIGHT TRIANGLE 1 UPWARDS EQUILATERAL ARROWHEAD 1
  VERTICAL ELLIPSE 2 RECTANGLE 1 VERY SMALL DIAMOND 3 LOZENGE 3 SQUARE 0 BLACK-FEATHERED NORTH EAST
  ARROW 1 RIGHTWARDS ARROW 1 SOUTH EAST ARROW 0 BLACK-LETTER CAPITAL C 2 H 2 I 2 R 2 Z 0 BLANK
  SYMBOL 0 BLOCK SEXTANT-1 1 SEXTANT-12 1 SEXTANT-123 1 SEXTANT-1234 1 SEXTANT-12345 1 SEXTANT-12346
  1 SEXTANT-1235 1 SEXTANT-12356 1 SEXTANT-1236 1 SEXTANT-124 1 SEXTANT-1245 1 SEXTANT-12456 1
  SEXTANT-1246 1 SEXTANT-125 1 SEXTANT-1256 1 SEXTANT-126 1 SEXTANT-13 1 SEXTANT-134 1 SEXTANT-1345
  1 SEXTANT-13456 1 SEXTANT-1346 1 SEXTANT-1356 1 SEXTANT-136 1 SEXTANT-14 1 SEXTANT-145 1
  SEXTANT-1456 1 SEXTANT-146 1 SEXTANT-15 1 SEXTANT-156 1 SEXTANT-16 1 SEXTANT-2 1 SEXTANT-23 1
  SEXTANT-234 1 SEXTANT-2345 1 SEXTANT-23456 1 SEXTANT-2346 1 SEXTANT-235 1 SEXTANT-2356 1
  SEXTANT-236 1 SEXTANT-24 1 SEXTANT-245 1 SEXTANT-2456 1 SEXTANT-25 1 SEXTANT-256 1 SEXTANT-26 1
  SEXTANT-3 1 SEXTANT-34 1 SEXTANT-345 1 SEXTANT-3456 1 SEXTANT-346 1 SEXTANT-35 1 SEXTANT-356 1
  SEXTANT-36 1 SEXTANT-4 1 SEXTANT-45 1 SEXTANT-456 1 SEXTANT-46 1 SEXTANT-5 1 SEXTANT-56 1
  SEXTANT-6 0 BLOSSOM 0 BLOWFISH 0 BLUE BOOK 1 HEART 0 BLUEBERRIES 0 BOAR 0 BOLD EIGHT SPOKED
  ASTERISK 1 FIVE SPOKED ASTERISK 1 GREEK CROSS 1 SALTIRE 1 SIX SPOKED ASTERISK 1 WHITE CIRCLE 2
  SQUARE 0 BOM 0 BOMB 0 BONE 0 BOOK 0 BOOKMARK 1 TABS 0 BOOKS 0 BOOMERANG 0 BOPOMOFO FINAL LETTER G
  3 H 3 K 3 P 3 T 1 LETTER A 2 AH 2 AI 2 AINN 2 AM 2 AN 2 ANG 2 ANN 2 AU 2 AUNN 2 B 2 BU 2 C 2 CH 2
  D 2 E 2 EE 2 EH 2 EI 2 EN 2 ENG 2 ENN 2 ER 2 F 2 G 2 GH 2 GN 2 GU 2 GW 2 H 2 I 2 IH 2 IM 2 INN 2
  INNN 2 IR 2 IU 2 J 2 JI 2 K 2 KW 2 L 2 LH 2 M 2 N 2 NG 2 NGG 2 NN 2 O 3 WITH DOT ABOVE 2 OE 2 OM 2
  ONG 2 ONN 2 OO 2 OU 2 P 2 Q 2 R 2 S 2 SH 2 T 2 U 2 UNN 2 V 2 X 2 Z 2 ZH 2 ZI 2 ZY 0 BOTTLE WITH
  POPPING CORK 0 BOTTOM ARC ANTICLOCKWISE ARROW 1 CURLY BRACKET 1 HALF BLACK CIRCLE 2 INTEGRAL 2
  LEFT PARENTHESIS 2 RIGHT PARENTHESIS 1 LEFT CORNER 2 CROP 2 HALF BRACKET 1 PARENTHESIS 1 RIGHT
  CORNER 2 CROP 2 HALF BRACKET 1 SQUARE BRACKET 3 OVER TOP SQUARE BRACKET 1 TORTOISE SHELL BRACKET 0
  BOUQUET 1 OF FLOWERS 0 BOW AND ARROW 0 BOWL OF HYGIEIA 1 WITH SPOON 0 BOWLING 0 BOWTIE 1 WITH LEFT
  HALF BLACK 2 RIGHT HALF BLACK 0 BOX DRAWINGS DOUBLE DOWN AND HORIZONTAL 5 LEFT 5 RIGHT 3
  HORIZONTAL 3 UP AND HORIZONTAL 5 LEFT 5 RIGHT 3 VERTICAL 4 AND HORIZONTAL 5 LEFT 5 RIGHT 2 DOWN
  DOUBLE AND HORIZONTAL SINGLE 5 LEFT SINGLE 5 RIGHT SINGLE 3 HEAVY AND HORIZONTAL LIGHT 5 LEFT
  LIGHT 6 UP LIGHT 5 RIGHT LIGHT 6 UP LIGHT 5 UP HORIZONTAL LIGHT 3 LIGHT AND HORIZONTAL HEAVY 5
  LEFT HEAVY 6 UP HEAVY 5 RIGHT HEAVY 6 UP HEAVY 5 UP HORIZONTAL HEAVY 3 SINGLE AND HORIZONTAL
  DOUBLE 5 LEFT DOUBLE 5 RIGHT DOUBLE 2 HEAVY DOUBLE DASH HORIZONTAL 5 VERTICAL 3 DOWN 4 AND
  HORIZONTAL 5 LEFT 5 RIGHT 3 HORIZONTAL 3 LEFT 4 AND LIGHT RIGHT 3 QUADRUPLE DASH HORIZONTAL 5
  VERTICAL 3 RIGHT 3 TRIPLE DASH HORIZONTAL 5 VERTICAL 3 UP 4 AND HORIZONTAL 5 LEFT 5 LIGHT DOWN 5
  RIGHT 3 VERTICAL 4 AND HORIZONTAL 5 LEFT 5 RIGHT 2 LEFT DOWN HEAVY AND RIGHT UP LIGHT 3 HEAVY AND
  RIGHT DOWN LIGHT 6 UP LIGHT 6 VERTICAL LIGHT 3 LIGHT AND RIGHT DOWN HEAVY 6 UP HEAVY 6 VERTICAL
  HEAVY 3 UP HEAVY AND RIGHT DOWN LIGHT 2 LIGHT ARC DOWN AND LEFT 6 RIGHT 4 UP AND LEFT 6 RIGHT 3
  DIAGONAL CROSS 4 DIAMOND 4 MIDDLE LEFT TO LOWER CENTRE 9 TO MIDDLE RIGHT 7 UPPER CENTRE TO MIDDLE
  RIGHT 12 TO LOWER CENTRE 5 RIGHT TO LOWER CENTRE 7 UPPER CENTRE TO MIDDLE LEFT TO LOWER CENTRE 4
  UPPER CENTRE TO MIDDLE LEFT 9 AND MIDDLE RIGHT TO LOWER CENTRE 9 TO LOWER CENTRE 12 TO MIDDLE
  RIGHT 8 RIGHT 9 AND MIDDLE LEFT TO LOWER CENTRE 9 TO LOWER CENTRE 12 TO MIDDLE LEFT 5 LEFT TO
  LOWER RIGHT 5 RIGHT TO LOWER LEFT 3 DOUBLE DASH HORIZONTAL 5 VERTICAL 3 DOWN 4 AND HORIZONTAL 5
  LEFT 5 RIGHT 3 HORIZONTAL 4 WITH VERTICAL STROKE 3 LEFT 4 AND HEAVY RIGHT 3 QUADRUPLE DASH
  HORIZONTAL 5 VERTICAL 3 RIGHT 3 TRIPLE DASH HORIZONTAL 5 VERTICAL 3 UP 4 AND HEAVY DOWN 5
  HORIZONTAL 5 LEFT 5 RIGHT 3 VERTICAL 4 AND HORIZONTAL 5 LEFT 5 RIGHT 2 RIGHT DOWN HEAVY AND LEFT
  UP LIGHT 3 HEAVY AND LEFT DOWN LIGHT 6 UP LIGHT 6 VERTICAL LIGHT 3 LIGHT AND LEFT DOWN HEAVY 6 UP
  HEAVY 6 VERTICAL HEAVY 3 UP HEAVY AND LEFT DOWN LIGHT 2 UP DOUBLE AND HORIZONTAL SINGLE 5 LEFT
  SINGLE 5 RIGHT SINGLE 3 HEAVY AND DOWN HORIZONTAL LIGHT 5 HORIZONTAL LIGHT 5 LEFT DOWN LIGHT 6
  LIGHT 5 RIGHT DOWN LIGHT 6 LIGHT 3 LIGHT AND DOWN HORIZONTAL HEAVY 5 HORIZONTAL HEAVY 5 LEFT DOWN
  HEAVY 6 HEAVY 5 RIGHT DOWN HEAVY 6 HEAVY 3 SINGLE AND HORIZONTAL DOUBLE 5 LEFT DOUBLE 5 RIGHT
  DOUBLE 2 VERTICAL DOUBLE AND HORIZONTAL SINGLE 5 LEFT SINGLE 5 RIGHT SINGLE 3 HEAVY AND HORIZONTAL
  LIGHT 5 LEFT LIGHT 5 RIGHT LIGHT 3 LIGHT AND HORIZONTAL HEAVY 5 LEFT HEAVY 5 RIGHT HEAVY 3 SINGLE
  AND HORIZONTAL DOUBLE 5 LEFT DOUBLE 5 RIGHT DOUBLE 0 BOXING GLOVE 0 BOY 0 BOYS SYMBOL 0 BPH 0
  BRAHMI DANDA 1 DIGIT EIGHT 2 FIVE 2 FOUR 2 NINE 2 ONE 2 SEVEN 2 SIX 2 THREE 2 TWO 2 ZERO 1 DOUBLE
  DANDA 1 LETTER A 2 AA 2 AI 2 AU 2 BA 2 BHA 2 CA 2 CHA 2 DA 2 DDA 2 DDHA 2 DHA 2 E 2 GA 2 GHA 2 HA
  2 I 2 II 2 JA 2 JHA 2 KA 2 KHA 2 LA 2 LLA 2 MA 2 NA 2 NGA 2 NNA 2 NYA 2 O 2 OLD TAMIL LLA 4 LLLA 4
  NNNA 4 RRA 4 SHORT E 5 O 2 PA 2 PHA 2 RA 2 SA 2 SHA 2 SSA 2 TA 2 THA 2 TTA 2 TTHA 2 U 2 UU 2 VA 2
  VOCALIC L 3 LL 3 R 3 RR 2 YA 1 NUMBER EIGHT 2 EIGHTY 2 FIFTY 2 FIVE 2 FORTY 2 FOUR 2 JOINER 2 NINE
  2 NINETY 2 ONE 3 HUNDRED 3 THOUSAND 2 SEVEN 2 SEVENTY 2 SIX 2 SIXTY 2 TEN 2 THIRTY 2 THREE 2
  TWENTY 2 TWO 1 PUNCTUATION CRESCENT BAR 2 DOT 2 DOUBLE DOT 2 LINE 2 LOTUS 1 SIGN ANUSVARA 2
  CANDRABINDU 2 JIHVAMULIYA 2 OLD TAMIL VIRAMA 2 UPADHMANIYA 2 VISARGA 1 VIRAMA 1 VOWEL SIGN AA 3 AI
  3 AU 3 BHATTIPROLU AA 3 E 3 I 3 II 3 O 3 OLD TAMIL SHORT E 6 O 3 U 3 UU 3 VOCALIC L 4 LL 4 R 4 RR
  0 BRAILLE PATTERN BLANK 2 DOTS-1 2 DOTS-12 2 DOTS-123 2 DOTS-1234 2 DOTS-12345 2 DOTS-123456 2
  DOTS-1234567 2 DOTS-12345678 2 DOTS-1234568 2 DOTS-123457 2 DOTS-1234578 2 DOTS-123458 2
  DOTS-12346 2 DOTS-123467 2 DOTS-1234678 2 DOTS-123468 2 DOTS-12347 2 DOTS-123478 2 DOTS-12348 2
  DOTS-1235 2 DOTS-12356 2 DOTS-123567 2 DOTS-1235678 2 DOTS-123568 2 DOTS-12357 2 DOTS-123578 2
  DOTS-12358 2 DOTS-1236 2 DOTS-12367 2 DOTS-123678 2 DOTS-12368 2 DOTS-1237 2 DOTS-12378 2
  DOTS-1238 2 DOTS-124 2 DOTS-1245 2 DOTS-12456 2 DOTS-124567 2 DOTS-1245678 2 DOTS-124568 2
  DOTS-12457 2 DOTS-124578 2 DOTS-12458 2 DOTS-1246 2 DOTS-12467 2 DOTS-124678 2 DOTS-12468 2
  DOTS-1247 2 DOTS-12478 2 DOTS-1248 2 DOTS-125 2 DOTS-1256 2 DOTS-12567 2 DOTS-125678 2 DOTS-12568
  2 DOTS-1257 2 DOTS-12578 2 DOTS-1258 2 DOTS-126 2 DOTS-1267 2 DOTS-12678 2 DOTS-1268 2 DOTS-127 2
  DOTS-1278 2 DOTS-128 2 DOTS-13 2 DOTS-134 2 DOTS-1345 2 DOTS-13456 2 DOTS-134567 2 DOTS-1345678 2
  DOTS-134568 2 DOTS-13457 2 DOTS-134578 2 DOTS-13458 2 DOTS-1346 2 DOTS-13467 2 DOTS-134678 2
  DOTS-13468 2 DOTS-1347 2 DOTS-13478 2 DOTS-1348 2 DOTS-135 2 DOTS-1356 2 DOTS-13567 2 DOTS-135678
  2 DOTS-13568 2 DOTS-1357 2 DOTS-13578 2 DOTS-1358 2 DOTS-136 2 DOTS-1367 2 DOTS-13678 2 DOTS-1368
  2 DOTS-137 2 DOTS-1378 2 DOTS-138 2 DOTS-14 2 DOTS-145 2 DOTS-1456 2 DOTS-14567 2 DOTS-145678 2
  DOTS-14568 2 DOTS-1457 2 DOTS-14578 2 DOTS-1458 2 DOTS-146 2 DOTS-1467 2 DOTS-14678 2 DOTS-1468 2
  DOTS-147 2 DOTS-1478 2 DOTS-148 2 DOTS-15 2 DOTS-156 2 DOTS-1567 2 DOTS-15678 2 DOTS-1568 2
  DOTS-157 2 DOTS-1578 2 DOTS-158 2 DOTS-16 2 DOTS-167 2 DOTS-1678 2 DOTS-168 2 DOTS-17 2 DOTS-178 2
  DOTS-18 2 DOTS-2 2 DOTS-23 2 DOTS-234 2 DOTS-2345 2 DOTS-23456 2 DOTS-234567 2 DOTS-2345678 2
  DOTS-234568 2 DOTS-23457 2 DOTS-234578 2 DOTS-23458 2 DOTS-2346 2 DOTS-23467 2 DOTS-234678 2
  DOTS-23468 2 DOTS-2347 2 DOTS-23478 2 DOTS-2348 2 DOTS-235 2 DOTS-2356 2 DOTS-23567 2 DOTS-235678
  2 DOTS-23568 2 DOTS-2357 2 DOTS-23578 2 DOTS-2358 2 DOTS-236 2 DOTS-2367 2 DOTS-23678 2 DOTS-2368
  2 DOTS-237 2 DOTS-2378 2 DOTS-238 2 DOTS-24 2 DOTS-245 2 DOTS-2456 2 DOTS-24567 2 DOTS-245678 2
  DOTS-24568 2 DOTS-2457 2 DOTS-24578 2 DOTS-2458 2 DOTS-246 2 DOTS-2467 2 DOTS-24678 2 DOTS-2468 2
  DOTS-247 2 DOTS-2478 2 DOTS-248 2 DOTS-25 2 DOTS-256 2 DOTS-2567 2 DOTS-25678 2 DOTS-2568 2
  DOTS-257 2 DOTS-2578 2 DOTS-258 2 DOTS-26 2 DOTS-267 2 DOTS-2678 2 DOTS-268 2 DOTS-27 2 DOTS-278 2
  DOTS-28 2 DOTS-3 2 DOTS-34 2 DOTS-345 2 DOTS-3456 2 DOTS-34567 2 DOTS-345678 2 DOTS-34568 2
  DOTS-3457 2 DOTS-34578 2 DOTS-3458 2 DOTS-346 2 DOTS-3467 2 DOTS-34678 2 DOTS-3468 2 DOTS-347 2
  DOTS-3478 2 DOTS-348 2 DOTS-35 2 DOTS-356 2 DOTS-3567 2 DOTS-35678 2 DOTS-3568 2 DOTS-357 2
  DOTS-3578 2 DOTS-358 2 DOTS-36 2 DOTS-367 2 DOTS-3678 2 DOTS-368 2 DOTS-37 2 DOTS-378 2 DOTS-38 2
  DOTS-4 2 DOTS-45 2 DOTS-456 2 DOTS-4567 2 DOTS-45678 2 DOTS-4568 2 DOTS-457 2 DOTS-4578 2 DOTS-458
  2 DOTS-46 2 DOTS-467 2 DOTS-4678 2 DOTS-468 2 DOTS-47 2 DOTS-478 2 DOTS-48 2 DOTS-5 2 DOTS-56 2
  DOTS-567 2 DOTS-5678 2 DOTS-568 2 DOTS-57 2 DOTS-578 2 DOTS-58 2 DOTS-6 2 DOTS-67 2 DOTS-678 2
  DOTS-68 2 DOTS-7 2 DOTS-78 2 DOTS-8 0 BRAIN 0 BREAD 0 BREAK PERMITTED HERE 0 BREAST-FEEDING 0
  BREVE 0 BRICK 0 BRIDE WITH VEIL 0 BRIDGE AT NIGHT 0 BRIEFCASE 0 BRIEFS 0 BROCCOLI 0 BROKEN BAR 1
  CIRCLE WITH NORTHWEST ARROW 1 HEART 0 BROOM 0 BROWN HEART 0 BS 0 BUBBLE TEA 0 BUBBLES 0 BUCKET 0
  BUG 0 BUGINESE END OF SECTION 1 LETTER A 2 BA 2 CA 2 DA 2 GA 2 HA 2 JA 2 KA 2 LA 2 MA 2 MPA 2 NA 2
  NGA 2 NGKA 2 NRA 2 NYA 2 NYCA 2 PA 2 RA 2 SA 2 TA 2 VA 2 YA 1 PALLAWA 1 VOWEL SIGN AE 3 E 3 I 3 O
  3 U 0 BUHID LETTER A 2 BA 2 DA 2 GA 2 HA 2 I 2 KA 2 LA 2 MA 2 NA 2 NGA 2 PA 2 RA 2 SA 2 TA 2 U 2
  WA 2 YA 1 VOWEL SIGN I 3 U 0 BUILDING CONSTRUCTION 0 BULLET 1 OPERATOR 0 BULLHORN 1 WITH SOUND
  WAVES 0 BULLSEYE 0 BURRITO 0 BUS 1 STOP 0 BUST IN SILHOUETTE 0 BUSTS IN SILHOUETTE 0 BUTTER 0
  BUTTERFLY 0 BYTE ORDER MARK 0 BYZANTINE MUSICAL SYMBOL AGOGI ARGI 4 ARGOTERI 4 GORGI 4 GORGOTERI 4
  MESI 4 METRIA 4 POLI ARGI 5 GORGI 3 ANATRICHISMA 3 ANTIKENOKYLISMA 3 ANTIKENOMA 3 APESO
  EKFONITIKON 4 EXO NEO 3 APLI 3 APODERMA ARCHAION 4 NEO 3 APOSTROFOI SYNDESMOS NEO 4 TELOUS
  ICHIMATOS 3 APOSTROFOS 4 DIPLI 4 NEO 3 APOTHEMA 3 ARGON 3 ARGOSYNTHETON 3 ARKTIKO DI 4 GA 4 KE 4
  NI 4 PA 4 VOU 4 ZO 3 CHAMILI 3 CHAMILON 3 CHOREVMA ARCHAION 4 NEO 3 CHROA KLITON 4 SPATHI 4 ZYGOS
  3 DASEIA 3 DIARGON 3 DIASTOLI APLI MEGALI 5 MIKRI 4 DIPLI 4 THESEOS 3 DIESIS APLI DYO DODEKATA 4
  DIGRAMMOS EX DODEKATA 4 MONOGRAMMOS TESSERA DODEKATA 4 TETARTIMORION 4 TRIGRAMMOS OKTO DODEKATA 4
  TRITIMORION 3 DIFTOGGOS OU 3 DIGORGON 4 PARESTIGMENON ARISTERA ANO 6 KATO 5 DEXIA 3 DIGRAMMA GG 3
  DIPLI 4 ARCHAION 3 DYO 3 EKSTREPTON 3 ELAFRON 3 ENARXIS KAI FTHORA VOU 3 ENDOFONON 3 EPEGERMA 3
  ETERON ARGOSYNTHETON 4 PARAKALESMA 3 EXO EKFONITIKON 3 FANEROSIS DIFONIAS 4 MONOFONIAS 4
  TETRAFONIAS 3 FHTORA SKLIRON CHROMA VASIS 3 FTHORA ARCHAION 5 DEYTEROU ICHOU 4 DIATONIKI DI 5 KE 5
  NANA 5 NI ANO 6 KATO 5 PA 5 ZO 4 ENARMONIOS ANTIFONIA 4 I YFESIS TETARTIMORION 4 MALAKON CHROMA
  DIFONIAS 6 MONOFONIAS 4 NAOS ICHOS 4 NENANO 4 SKLIRON CHROMA SYNAFI 6 VASIS 5 DIATONON DI 3 GENIKI
  DIESIS 4 YFESIS 3 GORGON ARCHAION 4 NEO ANO 5 KATO 4 PARESTIGMENON ARISTERA 5 DEXIA 3
  GORGOSYNTHETON 3 GORTHMIKON N APLOUN 5 DIPLOUN 3 GRONTHISMATA 3 ICHADIN 3 IMIDIARGON 3 IMIFONON 3
  IMIFTHORA 3 IMIFTHORON 3 ISAKIA TELOUS ICHIMATOS 3 ISON ARCHAION 4 NEO 3 KATAVA TROMIKON 3
  KATAVASMA 3 KATHISTI 3 KENTIMA ARCHAION 4 NEO ANO 5 KATO 5 MESO 3 KENTIMATA 4 ARCHAION 4 NEO ANO 5
  KATO 5 MESO 3 KLASMA 4 ANO 4 KATO 3 KONTEVMA 4 ALLO 3 KORONIS 3 KOUFISMA 3 KRATIMA ALLO 4 ARCHAION
  4 NEO 3 KRATIMATA 3 KRATIMOKOUFISMA 3 KRATIMOYPORROON 3 KREMASTI 3 KYLISMA 3 LEIMMA DYO CHRONON 4
  ENOS CHRONOU 4 IMISEOS CHRONOU 4 TESSARON CHRONON 4 TRION CHRONON 3 LEMOI 3 LYGISMA 3 MARTYRIA
  ALLI DEYTEROS ICHOS 5 PROTOS ICHOS 4 DEYTEROS ICHOS 4 LEGETOS ICHOS 4 PLAGIOS ICHOS 5 TETARTOS
  ICHOS 4 PROTOS ICHOS 4 PROTOVARYS ICHOS 4 TETARTOS ICHOS 5 LEGETOS ICHOS 4 TRIFONIAS 4 TRITOS
  ICHOS 4 VARYS ICHOS 3 MIKRON ISON 3 NANA 3 OLIGON ARCHAION 4 NEO 3 OMALON 3 OXEIA DIPLI 4
  EKFONITIKON 4 NEO 3 OXEIAI ARCHAION 3 OYRANISMA ARCHAION 4 NEO 3 PARAKALESMA ARCHAION 4 NEO 3
  PARAKLITIKI 4 ARCHAION 4 NEO 3 PARICHON 3 PELASTON 4 NEO 3 PERISPOMENI 3 PETASMA 3 PETASTI 3
  PETASTOKOUFISMA 3 PIASMA ARCHAION 4 NEO 3 PSIFISTOLYGISMA 3 PSIFISTON 4 NEO 3 PSIFISTOPARAKALESMA
  3 PSIFISTOSYNAGMA 3 PSILI 3 PSILON 3 RAPISMA 3 REVMA 3 SAXIMATA 3 SEISMA 4 NEO 3 SIMANSIS ARSEOS 5
  DISIMOU 5 TETRASIMOU 5 TRISIMOU 4 THESEOS 5 DISIMOU 5 TETRASIMOU 5 TRISIMOU 3 STAVROS 4 APODEXIA 3
  STIGMA 3 STRAGGISMATA 3 SYNAGMA ARCHAION 4 META STAVROU 4 NEO 3 SYNEVMA 3 SYRMA 3 SYRMATIKI 3
  TELEIA 3 TESSERA 3 TETRAPLI 3 THEMA 4 APLOUN 3 THEMATISMOS ESO 4 EXO 3 THES KAI APOTHES 3 THITA 3
  TINAGMA 3 TRIA 3 TRIGORGON 3 TRIPLI 3 TROMIKOLYGISMA 3 TROMIKON ALLO 4 ARCHAION 4 NEO 3
  TROMIKOPARAKALESMA 3 TROMIKOPSIFISTON 3 TROMIKOSYNAGMA 3 VAREIA DIPLI 4 EKFONITIKON 4 NEO 3
  VAREIAI ARCHAION 3 VATHY 3 XIRON KLASMA 3 YFEN ANO 4 KATO 3 YFESIS APLI DYO DODEKATA 4 DIGRAMMOS
  EX DODEKATA 4 MONOGRAMMOS TESSERA DODEKATA 4 TRIGRAMMOS OKTO DODEKATA 4 TRITIMORION 3 YPOKRISIS 4
  DIPLI 3 YPORROI 3 YPSILI 0 CACTUS 0 CADA UNA 0 CADUCEUS 0 CALENDAR 0 CALL ME HAND 0 CAMERA 1 WITH
  FLASH 0 CAMPING 0 CAN 0 CANADIAN SYLLABICS A 2 AA 2 AAI 2 AAY 2 AI 2 AIVILIK B 2 AN 2 ATHAPASCAN M
  3 S 2 AY 2 BEAVER DENE L 4 R 2 BIBLE-CREE Y 2 BLACKFOOT A 3 E 3 I 3 KA 3 KE 3 KI 3 KO 3 NA 3 NE 3
  NI 3 NO 3 O 3 S 3 W 3 WA 3 WE 3 WI 3 WO 2 C 2 CA 2 CAA 2 CAAI 2 CARRIER CHA 3 CHE 3 CHEE 3 CHI 3
  CHO 3 CHU 3 DEE 3 DENE GEE 3 DENTAL S 3 DI 3 DLA 3 DLE 3 DLEE 3 DLI 3 DLO 3 DLU 3 DZA 3 DZE 3 DZEE
  3 DZI 3 DZO 3 DZU 3 EE 3 GA 3 GAA 3 GE 3 GEE 3 GHA 3 GHE 3 GHEE 3 GHI 3 GHO 3 GHU 3 GI 3 GO 3 GU 3
  GWA 3 GWU 3 H 3 HEE 3 HI 3 HWA 3 HWE 3 HWEE 3 HWI 3 HWO 3 HWU 3 I 3 INITIAL Z 3 JA 3 JE 3 JEE 3 JI
  3 JJA 3 JJE 3 JJEE 3 JJI 3 JJO 3 JJU 3 JO 3 JU 3 JWA 3 KHA 3 KHE 3 KHEE 3 KHI 3 KHO 3 KHU 3 KK 3
  KKA 3 KKE 3 KKEE 3 KKI 3 KKO 3 KKU 3 LA 3 LE 3 LEE 3 LHA 3 LHE 3 LHEE 3 LHI 3 LHO 3 LHU 3 LI 3 LO
  3 LU 3 MA 3 ME 3 MEE 3 MI 3 MO 3 MU 3 NA 3 NE 3 NEE 3 NG 3 NI 3 NO 3 NU 3 P 3 PA 3 PE 3 PEE 3 PI 3
  PO 3 PU 3 RA 3 RE 3 REE 3 RI 3 RO 3 RU 3 SA 3 SE 3 SEE 3 SH 3 SHA 3 SHE 3 SHEE 3 SHI 3 SHO 3 SHU 3
  SI 3 SO 3 SU 3 THA 3 THE 3 THEE 3 THI 3 THO 3 THU 3 TLA 3 TLE 3 TLEE 3 TLHA 3 TLHE 3 TLHEE 3 TLHI
  3 TLHO 3 TLHU 3 TLI 3 TLO 3 TLU 3 TSA 3 TSE 3 TSEE 3 TSI 3 TSO 3 TSU 3 TTA 3 TTE 3 TTEE 3 TTI 3
  TTO 3 TTSA 3 TTSE 3 TTSEE 3 TTSI 3 TTSO 3 TTSU 3 TTU 3 WA 3 WE 3 WEE 3 WI 3 WO 3 WU 3 YA 3 YE 3
  YEE 3 YI 3 YO 3 YU 3 Z 3 ZA 3 ZE 3 ZEE 3 ZI 3 ZO 3 ZU 2 CE 2 CHI SIGN 2 CI 2 CII 2 CO 2 COO 2 CWA
  2 CWAA 2 CWE 2 CWI 2 CWII 2 CWO 2 CWOO 2 E 2 EASTERN W 2 EN 2 F 2 FA 2 FAA 2 FAAI 2 FE 2 FI 2 FII
  2 FINAL ACUTE 3 BOTTOM HALF RING 3 DOUBLE ACUTE 4 SHORT VERTICAL STROKES 3 DOWN TACK 3 GRAVE 3
  MIDDLE DOT 3 PLUS 3 RAISED DOT 3 RIGHT HALF RING 3 RING 3 SHORT HORIZONTAL STROKE 3 SMALL RING 3
  TOP HALF RING 2 FO 2 FOO 2 FULL STOP 2 FWAA 2 GLOTTAL STOP 2 HK 2 HYPHEN 2 I 2 II 2 IN 2 K 2 KA 2
  KAA 2 KAAI 2 KAY 2 KE 2 KI 2 KII 2 KO 2 KOO 2 KW 2 KWA 2 KWAA 2 KWAY 2 KWE 2 KWI 2 KWII 2 KWO 2
  KWOO 2 L 2 LA 2 LAA 2 LAAI 2 LAY 2 LE 2 LH 2 LHA 2 LHAA 2 LHI 2 LHII 2 LHO 2 LHOO 2 LI 2 LII 2 LO
  2 LOO 2 LWA 2 LWAA 2 LWE 2 LWI 2 LWII 2 LWO 2 LWOO 2 M 2 MA 2 MAA 2 MAAI 2 MAY 2 ME 2 MEDIAL L 3 R
  2 MH 2 MI 2 MII 2 MO 2 MOO 2 MOOSE-CREE SK 2 MWA 2 MWAA 2 MWE 2 MWI 2 MWII 2 MWO 2 MWOO 2 N 2
  N-CREE THE 3 THI 3 THII 2 NA 2 NAA 2 NAAI 2 NASKAPI CWAA 3 KWAA 3 MWAA 3 NWAA 3 S-W 3 SCWA 3 SKW 3
  SKWA 3 SPWA 3 STWA 3 SWAA 3 TWAA 3 WAA 3 WOO 3 YWAA 2 NATTILIK HA 3 HAA 3 HI 3 HII 3 HO 3 HOO 3
  SHRA 3 SHRAA 3 SHRI 3 SHRII 3 SHRO 3 SHROO 2 NAY 2 NE 2 NG 2 NGA 2 NGAA 2 NGAAI 2 NGAI 2 NGI 2
  NGII 2 NGO 2 NGOO 2 NH 2 NI 2 NII 2 NNG 2 NNGA 2 NNGAA 2 NNGI 2 NNGII 2 NNGO 2 NNGOO 2 NO 2 NOO 2
  NOY 2 NUNAVIK H 3 HA 3 HAA 3 HE 3 HI 3 HII 3 HO 3 HOO 2 NUNAVUT H 2 NWA 2 NWAA 2 NWE 2 NWI 2 NWII
  2 NWO 2 NWOO 2 O 2 OJIBWAY C 3 K 3 M 3 N 3 NWI 3 NWII 3 NWO 3 NWOO 3 P 3 S 3 SH 3 T 2 ON 2 OO 2 OY
  2 P 2 PA 2 PAA 2 PAAI 2 PAY 2 PE 2 PI 2 PII 2 PO 2 POO 2 POY 2 PWA 2 PWAA 2 PWE 2 PWI 2 PWII 2 PWO
  2 PWOO 2 PWOY 2 Q 2 QA 2 QAA 2 QAAI 2 QAI 2 QI 2 QII 2 QO 2 QOO 2 R 2 R-CREE RE 3 RWE 2 RA 2 RAA 2
  RAAI 2 RAY 2 RE 2 RI 2 RII 2 RO 2 ROO 2 RWA 2 RWAA 2 RWEE 2 RWI 2 RWII 2 RWO 2 RWOO 2 S 2 SA 2 SAA
  2 SAAI 2 SAY 2 SAYISI HA 3 HE 3 HI 3 HO 3 HOO 3 JI 3 JU 3 JUU 3 M 3 SHA 3 SHE 3 SHI 3 SHO 3 SHOO 3
  SHWE 3 TH 3 YI 2 SE 2 SH 2 SHA 2 SHAA 2 SHAY 2 SHE 2 SHI 2 SHII 2 SHO 2 SHOO 2 SHOY 2 SHWA 2 SHWAA
  2 SHWE 2 SHWI 2 SHWII 2 SHWO 2 SHWOO 2 SHWOY 2 SI 2 SII 2 SO 2 SOO 2 SOUTH-SLAVEY KAH 3 KEH 3 KIH
  3 KOH 2 SOY 2 SPA 2 SPE 2 SPI 2 SPO 2 SW 2 SWA 2 SWAA 2 SWE 2 SWI 2 SWII 2 SWO 2 SWOO 2 T 2 TA 2
  TAA 2 TAAI 2 TAY 2 TE 2 TH 2 TH-CREE TH 3 THA 3 THAA 3 THE 3 THI 3 THII 3 THO 3 THOO 2 THA 2 THAA
  2 THE 2 THI 2 THII 2 THO 2 THOO 2 THWA 2 THWAA 2 THWE 2 TI 2 TII 2 TLHA 2 TLHE 2 TLHI 2 TLHO 2
  TLHOO 2 TLHWE 2 TO 2 TOO 2 TTA 2 TTE 2 TTH 2 TTHA 2 TTHAA 2 TTHE 2 TTHI 2 TTHO 2 TTHOO 2 TTHWE 2
  TTI 2 TTO 2 TWA 2 TWAA 2 TWE 2 TWI 2 TWII 2 TWO 2 TWOO 2 TYA 2 TYE 2 TYI 2 TYO 2 WA 2 WAA 2 WAY 2
  WE 2 WEST-CREE CWA 3 CWAA 3 CWE 3 CWI 3 CWII 3 CWO 3 CWOO 3 FWAA 3 KWA 3 KWAA 3 KWE 3 KWI 3 KWII 3
  KWO 3 KWOO 3 L 3 LA 3 LAA 3 LE 3 LO 3 LOO 3 LWA 3 LWAA 3 LWE 3 LWI 3 LWII 3 LWO 3 LWOO 3 M 3 MWA 3
  MWAA 3 MWE 3 MWI 3 MWII 3 MWO 3 MWOO 3 NWA 3 NWAA 3 NWE 3 P 3 PWA 3 PWAA 3 PWE 3 PWI 3 PWII 3 PWO
  3 PWOO 3 R 3 RA 3 RE 3 RI 3 RO 3 RWAA 3 SHWA 3 SHWAA 3 SHWE 3 SHWI 3 SHWII 3 SHWO 3 SHWOO 3 SWA 3
  SWAA 3 SWE 3 SWI 3 SWII 3 SWO 3 SWOO 3 THWAA 3 TWA 3 TWAA 3 TWE 3 TWI 3 TWII 3 TWO 3 TWOO 3 WA 3
  WAA 3 WE 3 WI 3 WII 3 WO 3 WOO 3 Y 3 YWA 3 YWAA 3 YWE 3 YWI 3 YWII 3 YWO 3 YWOO 2 WESTERN W 2 WI 2
  WII 2 WO 2 WOO 2 WOODS-CREE FINAL TH 3 TH 3 THA 3 THE 3 THI 3 THO 3 THWA 3 THWAA 3 THWEE 3 THWI 3
  THWII 3 THWO 3 THWOO 2 Y 2 Y-CREE COO 3 KOO 3 LOO 3 MOO 3 NOO 3 OO 3 POO 3 PWAA 3 SOO 3 TOO 3 W 3
  YOO 2 YA 2 YAA 2 YAAI 2 YAY 2 YE 2 YI 2 YII 2 YO 2 YOO 2 YOY 2 YWA 2 YWAA 2 YWE 2 YWI 2 YWII 2 YWO
  2 YWOO 0 CANCEL 1 CHARACTER 1 TAG 0 CANCELLATION X 0 CANCER 0 CANDLE 0 CANDY 0 CANNED FOOD 0 CANOE
  0 CAPITULUM 0 CAPRICORN 0 CAR SLIDING 0 CARD FILE BOX 1 INDEX 2 DIVIDERS 0 CARE OF 0 CARET 1
  INSERTION POINT 0 CARIAN LETTER A 2 A2 2 B 2 C-18 2 C-39 2 D 2 D2 2 E 2 E2 2 G 2 G2 2 I 2 II 2 K 2
  K2 2 L 2 LD 2 LD2 2 M 2 MB 2 MB2 2 MB3 2 MB4 2 N 2 ND 2 NG 2 NN 2 O 2 P 2 P2 2 Q 2 R 2 RR 2 S 2 SH
  2 SH2 2 SS 2 ST 2 ST2 2 T 2 TT 2 TT2 2 U 2 UU 2 UUU 2 UUU2 2 UUU3 2 UUUU 2 X 0 CARON 0 CAROUSEL
  HORSE 0 CARP STREAMER 0 CARPENTRY SAW 0 CARRIAGE RETURN 0 CARROT 0 CASTLE 0 CAT 1 FACE 2 WITH
  TEARS OF JOY 3 WRY SMILE 0 CAUCASIAN ALBANIAN CITATION MARK 2 LETTER ALT 3 AOR 3 BET 3 CAR 3 CAYN
  3 CHA 3 CHAT 3 CHI 3 CHOY 3 CYAW 3 CYAY 3 DAT 3 DYAN 3 DZAY 3 DZYAY 3 EB 3 EYN 3 FAM 3 GHEYS 3 GIM
  3 HEYT 3 INYA 3 IRB 3 IWN 3 JAYN 3 JHOX 3 KAR 3 KIW 3 LAN 3 LYIT 3 MAQ 3 NOWC 3 ON 3 PEN 3 PIWR 3
  QAR 3 QAY 3 RAT 3 SEYK 3 SHA 3 SHAK 3 SHOY 3 TAS 3 TIWR 3 TYAY 3 VEYZ 3 XEYN 3 YAYD 3 YOWD 3 ZARL
  3 ZHA 3 ZHIL 0 CAUTION SIGN 0 CCH 0 CEDI SIGN 0 CEDILLA 0 CELTIC CROSS 0 CENT SIGN 0 CENTRE LINE
  SYMBOL 0 CENTRELINE LOW LINE 1 OVERLINE 0 CERES 0 CGJ 0 CHAINS 0 CHAIR 0 CHAKMA AU MARK 1 DANDA 1
  DIGIT EIGHT 2 FIVE 2 FOUR 2 NINE 2 ONE 2 SEVEN 2 SIX 2 THREE 2 TWO 2 ZERO 1 DOUBLE DANDA 1 LETTER
  AA 2 BAA 2 BHAA 2 CAA 2 CHAA 2 DAA 2 DDAA 2 DDHAA 2 DHAA 2 E 2 GAA 2 GHAA 2 HAA 2 I 2 JAA 2 JHAA 2
  KAA 2 KHAA 2 LAA 2 LHAA 2 MAA 2 NAA 2 NGAA 2 NNAA 2 NYAA 2 PAA 2 PHAA 2 RAA 2 SAA 2 TAA 2 THAA 2
  TTAA 2 TTHAA 2 U 2 VAA 2 WAA 2 YAA 2 YYAA 1 MAAYYAA 1 O MARK 1 QUESTION MARK 1 SECTION MARK 1 SIGN
  ANUSVARA 2 CANDRABINDU 2 VISARGA 1 VIRAMA 1 VOWEL SIGN A 3 AA 3 AI 3 AU 3 E 3 EI 3 I 3 II 3 O 3 OI
  3 U 3 UU 0 CHAM CONSONANT SIGN FINAL H 4 M 4 NG 3 LA 3 RA 3 WA 3 YA 1 DIGIT EIGHT 2 FIVE 2 FOUR 2
  NINE 2 ONE 2 SEVEN 2 SIX 2 THREE 2 TWO 2 ZERO 1 LETTER A 2 AI 2 BA 2 BBA 2 BHA 2 CHA 2 CHHA 2 DA 2
  DDA 2 DHA 2 E 2 FINAL CH 3 G 3 K 3 L 3 N 3 NG 3 P 3 R 3 SS 3 T 3 Y 2 GA 2 GHA 2 HA 2 I 2 JA 2 JHA
  2 KA 2 KHA 2 LA 2 MA 2 MUE 2 NA 2 NGA 2 NGUE 2 NHA 2 NHJA 2 NHUE 2 NUE 2 O 2 PA 2 PHA 2 PPA 2 RA 2
  SA 2 SSA 2 TA 2 THA 2 U 2 VA 2 YA 1 PUNCTUATION DANDA 2 DOUBLE DANDA 2 SPIRAL 2 TRIPLE DANDA 1
  VOWEL SIGN AA 3 AI 3 AU 3 EI 3 I 3 II 3 O 3 OE 3 U 3 UE 0 CHARACTER TABULATION 2 SET 2 WITH
  JUSTIFICATION 1 TIE 0 CHART WITH DOWNWARDS TREND 2 UPWARDS TREND 4 AND YEN SIGN 0 CHECK MARK 0
  CHECKER BOARD 2 FILL 0 CHEERING MEGAPHONE 0 CHEESE WEDGE 0 CHEQUERED FLAG 0 CHEROKEE LETTER A 2 DA
  2 DE 2 DI 2 DLA 2 DO 2 DU 2 DV 2 E 2 GA 2 GE 2 GI 2 GO 2 GU 2 GV 2 HA 2 HE 2 HI 2 HNA 2 HO 2 HU 2
  HV 2 I 2 KA 2 LA 2 LE 2 LI 2 LO 2 LU 2 LV 2 MA 2 ME 2 MI 2 MO 2 MU 2 MV 2 NA 2 NAH 2 NE 2 NI 2 NO
  2 NU 2 NV 2 O 2 QUA 2 QUE 2 QUI 2 QUO 2 QUU 2 QUV 2 S 2 SA 2 SE 2 SI 2 SO 2 SU 2 SV 2 TA 2 TE 2 TI
  2 TLA 2 TLE 2 TLI 2 TLO 2 TLU 2 TLV 2 TSA 2 TSE 2 TSI 2 TSO 2 TSU 2 TSV 2 U 2 V 2 WA 2 WE 2 WI 2
  WO 2 WU 2 WV 2 YA 2 YE 2 YI 2 YO 2 YU 2 YV 1 SMALL LETTER A 3 DA 3 DE 3 DI 3 DLA 3 DO 3 DU 3 DV 3
  E 3 GA 3 GE 3 GI 3 GO 3 GU 3 GV 3 HA 3 HE 3 HI 3 HNA 3 HO 3 HU 3 HV 3 I 3 KA 3 LA 3 LE 3 LI 3 LO 3
  LU 3 LV 3 MA 3 ME 3 MI 3 MO 3 MU 3 MV 3 NA 3 NAH 3 NE 3 NI 3 NO 3 NU 3 NV 3 O 3 QUA 3 QUE 3 QUI 3
  QUO 3 QUU 3 QUV 3 S 3 SA 3 SE 3 SI 3 SO 3 SU 3 SV 3 TA 3 TE 3 TI 3 TLA 3 TLE 3 TLI 3 TLO 3 TLU 3
  TLV 3 TSA 3 TSE 3 TSI 3 TSO 3 TSU 3 TSV 3 U 3 V 3 WA 3 WE 3 WI 3 WO 3 WU 3 WV 3 YA 3 YE 3 YI 3 YO
  3 YU 3 YV 0 CHERRIES 0 CHERRY BLOSSOM 0 CHESTNUT 0 CHI RHO 0 CHICKEN 0 CHILD 0 CHILDREN CROSSING 0
  CHIPMUNK 0 CHIRON 0 CHOCOLATE BAR 0 CHOPSTICKS 0 CHORASMIAN LETTER ALEPH 2 AYIN 2 BETH 2 CURLED
  WAW 2 DALETH 2 GIMEL 2 HE 2 HETH 2 KAPH 2 LAMEDH 2 MEM 2 NUN 2 PE 2 RESH 2 SAMEKH 2 SHIN 2 SMALL
  ALEPH 2 TAW 2 WAW 2 YODH 2 ZAYIN 1 NUMBER FOUR 2 ONE 3 HUNDRED 2 TEN 2 THREE 2 TWENTY 2 TWO 0
  CHRISTMAS TREE 0 CHURCH 0 CINEMA 0 CIRCLE DIVIDED BY HORIZONTAL BAR AND TOP HALF DIVIDED BY
  VERTICAL BAR 1 WITH ALL BUT UPPER LEFT QUADRANT BLACK 2 HORIZONTAL BAR 2 LEFT HALF BLACK 2 LOWER
  HALF BLACK 2 RIGHT HALF BLACK 2 SMALL CIRCLE TO THE RIGHT 2 SUPERIMPOSED X 2 TWO HORIZONTAL
  STROKES TO THE RIGHT 2 UPPER HALF BLACK 3 RIGHT QUADRANT BLACK 2 VERTICAL FILL 0 CIRCLED
  ANTICLOCKWISE ARROW 1 ANTICLOCKWISE-ROTATED DIVISION SIGN 1 ASTERISK OPERATOR 1 BOLD X 1 BULLET 1
  C WITH OVERLAID BACKSLASH 1 CC 1 CD 1 CROSS FORMEE 3 WITH FOUR DOTS 4 TWO DOTS 2 POMMEE 1 CROSSING
  LANES 1 DASH 1 DIGIT EIGHT 2 FIVE 2 FOUR 2 NINE 2 ONE 2 SEVEN 2 SIX 2 THREE 2 TWO 2 ZERO 1
  DIVISION SIGN 2 SLASH 1 DOLLAR SIGN WITH OVERLAID BACKSLASH 1 DOT OPERATOR 1 EQUALS 1 GREATER-THAN
  1 HANGUL CHIEUCH 3 A 2 CIEUC 3 A 2 HIEUH 3 A 2 IEUNG 3 A 3 U 2 KHIEUKH 3 A 2 KIYEOK 3 A 2 MIEUM 3
  A 2 NIEUN 3 A 2 PHIEUPH 3 A 2 PIEUP 3 A 2 RIEUL 3 A 2 SIOS 3 A 2 THIEUTH 3 A 2 TIKEUT 3 A 1 HEAVY
  WHITE RIGHTWARDS ARROW 1 HORIZONTAL BAR WITH NOTCH 1 HUMAN FIGURE 1 IDEOGRAPH ACCEPT 2 ADVANTAGE 2
  ALLIANCE 2 ATTENTION 2 CENTRE 2 CONGRATULATION 2 COPY 2 CORRECT 2 EARTH 2 EIGHT 2 ENTERPRISE 2
  EXCELLENT 2 FEMALE 2 FINANCIAL 2 FIRE 2 FIVE 2 FOUR 2 HAVE 2 HIGH 2 ITEM 2 KINDERGARTEN 2 KOTO 2
  LABOR 2 LEFT 2 LOW 2 MALE 2 MEDICINE 2 METAL 2 MOON 2 NAME 2 NIGHT 2 NINE 2 ONE 2 PRINT 2 QUESTION
  2 RELIGION 2 RESOURCE 2 REST 2 RIGHT 2 SCHOOL 2 SECRET 2 SEVEN 2 SIX 2 SOCIETY 2 SPECIAL 2 STOCK 2
  STUDY 2 SUITABLE 2 SUN 2 SUPERVISE 2 TEN 2 THREE 2 TWO 2 WATER 2 WOOD 1 INFORMATION SOURCE 1
  ITALIC LATIN CAPITAL LETTER C 5 R 1 KATAKANA A 2 E 2 HA 2 HE 2 HI 2 HO 2 HU 2 I 2 KA 2 KE 2 KI 2
  KO 2 KU 2 MA 2 ME 2 MI 2 MO 2 MU 2 NA 2 NE 2 NI 2 NO 2 NU 2 O 2 RA 2 RE 2 RI 2 RO 2 RU 2 SA 2 SE 2
  SI 2 SO 2 SU 2 TA 2 TE 2 TI 2 TO 2 TU 2 U 2 WA 2 WE 2 WI 2 WO 2 YA 2 YO 2 YU 1 KOREAN CHARACTER
  CHAMKO 3 JUEUI 1 LATIN CAPITAL LETTER A 4 B 4 C 4 D 4 E 4 F 4 G 4 H 4 I 4 J 4 K 4 L 4 M 4 N 4 O 4
  P 4 Q 4 R 4 S 4 T 4 U 4 V 4 W 4 X 4 Y 4 Z 2 SMALL LETTER A 4 B 4 C 4 D 4 E 4 F 4 G 4 H 4 I 4 J 4 K
  4 L 4 M 4 N 4 O 4 P 4 Q 4 R 4 S 4 T 4 U 4 V 4 W 4 X 4 Y 4 Z 1 LESS-THAN 1 MINUS 1 MULTIPLICATION
  SIGN WITH CIRCUMFLEX ACCENT 1 NUMBER EIGHTEEN 2 EIGHTY ON BLACK SQUARE 2 ELEVEN 2 FIFTEEN 2 FIFTY
  3 ON BLACK SQUARE 2 FORTY 3 EIGHT 3 FIVE 3 FOUR 3 NINE 3 ON BLACK SQUARE 3 ONE 3 SEVEN 3 SIX 3
  THREE 3 TWO 2 FOURTEEN 2 NINETEEN 2 SEVENTEEN 2 SEVENTY ON BLACK SQUARE 2 SIXTEEN 2 SIXTY ON BLACK
  SQUARE 2 TEN 3 ON BLACK SQUARE 2 THIRTEEN 2 THIRTY 3 EIGHT 3 FIVE 3 FOUR 3 NINE 3 ON BLACK SQUARE
  3 ONE 3 SEVEN 3 SIX 3 THREE 3 TWO 2 TWELVE 2 TWENTY 3 EIGHT 3 FIVE 3 FOUR 3 NINE 3 ON BLACK SQUARE
  3 ONE 3 SEVEN 3 SIX 3 THREE 3 TWO 1 OPEN CENTRE EIGHT POINTED STAR 1 PARALLEL 1 PERPENDICULAR 1
  PLUS 1 POSTAL MARK 1 REVERSE SOLIDUS 1 RING OPERATOR 1 SQUARE 1 TIMES 1 TRIANGLE 2 DOWN 1 VERTICAL
  BAR 1 WHITE BULLET 2 STAR 1 WZ 1 X 1 ZERO WITH SLASH 0 CIRCULATION FUNCTION 0 CIRCUMFLEX ACCENT 0
  CIRCUS TENT 0 CITYSCAPE 1 AT DUSK 0 CJK RADICAL BAMBOO 2 BLUE 2 BOLT OF CLOTH 2 BONE 2 BOX 2 BRUSH
  ONE 3 TWO 2 C-SIMPLIFIED BIRD 3 CART 3 DRAGON 3 EAT 3 EVEN 3 FISH 3 FLY 3 FROG 3 GATE 3 GOLD 3
  HORSE 3 LEAF 3 LONG 3 SALT 3 SEE 3 SHELL 3 SILK 3 SPEECH 3 TANNED LEATHER 3 TOOTH 3 TURTLE 3 WIND
  2 CHOKE 2 CITY 2 CIVILIAN 2 CLIFF 2 CLOTHES 2 COW 2 DEATH 2 DIVINATION 2 DOG 2 EAT ONE 3 THREE 3
  TWO 2 EWE 2 EYE 2 FIRE 2 FOOT 2 GHOST 2 GRASS ONE 3 THREE 3 TWO 2 HAND 2 HEAD 2 HEART ONE 3 TWO 2
  HORN 2 J-SIMPLIFIED DRAGON 3 EVEN 3 TOOTH 3 TURTLE 2 JADE 2 KNIFE ONE 3 TWO 2 LAME FOUR 3 ONE 3
  THREE 3 TWO 2 LONG ONE 3 TWO 2 MEAT 2 MESH 2 MOON 2 MORTAR 2 MOTHER 2 MOUND ONE 3 TWO 2 NET FOUR 3
  ONE 3 THREE 3 TWO 2 OLD 2 PAW ONE 3 TWO 2 PERSON 2 RAIN 2 RAM 2 RAP 2 REPEAT 2 SEAL 2 SECOND ONE 3
  THREE 3 TWO 2 SHEEP 2 SILK 2 SIMPLIFIED HALF TREE TRUNK 3 HORN 3 WALK 3 WHEAT 3 YELLOW 2 SMALL ONE
  3 TWO 2 SNAKE 2 SNOUT ONE 3 TWO 2 SPIRIT ONE 3 TWO 2 SUN 2 TABLE 2 THREAD 2 TIGER 2 TURTLE 2 WALK
  ONE 3 TWO 2 WATER ONE 3 TWO 2 WEST ONE 3 TWO 1 STROKE BXG 2 D 2 H 2 HG 2 HP 2 HPWG 2 HXWG 2 HZ 2
  HZG 2 HZT 2 HZW 2 HZWG 2 HZZ 2 HZZP 2 HZZZ 2 HZZZG 2 N 2 P 2 PD 2 PG 2 PZ 2 Q 2 S 2 SG 2 SP 2 ST 2
  SW 2 SWG 2 SWZ 2 SZ 2 SZWG 2 SZZ 2 T 2 TN 2 WG 2 XG 0 CLAMSHELL MOBILE PHONE 0 CLAPPER BOARD 0
  CLAPPING HANDS SIGN 0 CLASSICAL BUILDING 0 CLEAR SCREEN SYMBOL 0 CLINKING BEER MUGS 1 GLASSES 0
  CLIPBOARD 0 CLOCK FACE EIGHT OCLOCK 2 EIGHT-THIRTY 2 ELEVEN OCLOCK 2 ELEVEN-THIRTY 2 FIVE OCLOCK 2
  FIVE-THIRTY 2 FOUR OCLOCK 2 FOUR-THIRTY 2 NINE OCLOCK 2 NINE-THIRTY 2 ONE OCLOCK 2 ONE-THIRTY 2
  SEVEN OCLOCK 2 SEVEN-THIRTY 2 SIX OCLOCK 2 SIX-THIRTY 2 TEN OCLOCK 2 TEN-THIRTY 2 THREE OCLOCK 2
  THREE-THIRTY 2 TWELVE OCLOCK 2 TWELVE-THIRTY 2 TWO OCLOCK 2 TWO-THIRTY 0 CLOCKWISE CLOSED CIRCLE
  ARROW 1 CONTOUR INTEGRAL 1 DOWNWARDS AND UPWARDS OPEN CIRCLE ARROWS 1 GAPPED CIRCLE ARROW 1
  INTEGRAL 1 OPEN CIRCLE ARROW 1 RIGHT AND LEFT SEMICIRCLE ARROWS 1 RIGHTWARDS AND LEFTWARDS OPEN
  CIRCLE ARROWS 7 WITH CIRCLED ONE OVERLAY 1 TOP SEMICIRCLE ARROW 1 TRIANGLE-HEADED OPEN CIRCLE
  ARROW 0 CLOSE UP 0 CLOSED BOOK 1 INTERSECTION WITH SERIFS 1 LOCK WITH KEY 1 MAILBOX WITH LOWERED
  FLAG 3 RAISED FLAG 1 SUBSET 2 OR EQUAL TO 1 SUPERSET 2 OR EQUAL TO 1 UMBRELLA 1 UNION WITH SERIFS
  4 AND SMASH PRODUCT 0 CLOUD 1 WITH LIGHTNING 2 RAIN 2 SNOW 2 TORNADO 0 CLOWN FACE 0 COAT 0
  COCKROACH 0 COCKTAIL GLASS 0 COCONUT 0 COFFIN 0 COIN 0 COLLISION SYMBOL 0 COLON 1 EQUALS 1 SIGN 0
  COMBINING ACUTE ACCENT 3 BELOW 2 TONE MARK 1 ACUTE-GRAVE-ACUTE 1 ACUTE-MACRON 1 ALMOST EQUAL TO
  ABOVE 4 BELOW 1 ANNUITY SYMBOL 1 ANTICLOCKWISE ARROW ABOVE 2 RING OVERLAY 1 ASTERISK ABOVE 2 BELOW
  1 BINDU BELOW 1 BREVE 2 BELOW 1 BREVE-MACRON 1 BRIDGE ABOVE 2 BELOW 1 CANDRABINDU 1 CARON 2 BELOW
  1 CEDILLA 1 CIRCUMFLEX ACCENT 3 BELOW 1 CLOCKWISE ARROW ABOVE 2 RING OVERLAY 1 COMMA ABOVE 3 RIGHT
  2 BELOW 1 CONJOINING MACRON 3 BELOW 1 CYRILLIC DASIA PNEUMATA 2 HUNDRED MILLIONS SIGN 3 THOUSANDS
  SIGN 2 KAVYKA 2 LETTER A 3 BE 3 BIG YUS 3 CHE 3 DE 3 DJERV 3 EF 3 EL 3 EM 3 EN 3 ER 3 ES 3 ES-TE 3
  FITA 3 GHE 3 HA 3 HARD SIGN 3 I 3 IE 3 IOTIFIED A 4 BIG YUS 4 E 3 KA 3 LITTLE YUS 3 MONOGRAPH UK 3
  O 3 OMEGA 3 PE 3 SHA 3 SHCHA 3 SOFT SIGN 3 TE 3 TSE 3 U 3 UKRAINIAN IE 3 VE 3 YAT 3 YERU 3 YI 3 YU
  3 ZE 3 ZHE 2 MILLIONS SIGN 2 PALATALIZATION 2 PAYEROK 2 POKRYTIE 2 PSILI PNEUMATA 2 TEN MILLIONS
  SIGN 2 THOUSAND MILLIONS SIGN 2 TITLO 3 LEFT HALF 3 RIGHT HALF 2 VZMET 1 DELETION MARK 1
  DEVANAGARI DIGIT EIGHT 3 FIVE 3 FOUR 3 NINE 3 ONE 3 SEVEN 3 SIX 3 THREE 3 TWO 3 ZERO 2 LETTER A 3
  KA 3 NA 3 PA 3 RA 3 U 3 VI 2 SIGN AVAGRAHA 1 DIAERESIS 2 BELOW 1 DIAERESIS-RING 1 DOT ABOVE 3 LEFT
  3 RIGHT 2 BELOW 3 LEFT 1 DOTTED ACUTE ACCENT 2 GRAVE ACCENT 1 DOUBLE ACUTE ACCENT 2 BREVE 3 BELOW
  2 CIRCUMFLEX ABOVE 2 GRAVE ACCENT 2 INVERTED BREVE 4 BELOW 2 LOW LINE 2 MACRON 3 BELOW 2 OPEN MARK
  BELOW 2 OVERLINE 2 PARENTHESES ABOVE 2 PLUS SIGN ABOVE 4 BELOW 2 RIGHTWARDS ARROW BELOW 2 RING
  BELOW 2 TILDE 3 LEFT HALF 3 RIGHT HALF 2 VERTICAL LINE ABOVE 4 BELOW 3 STROKE OVERLAY 1 DOUBLED
  CIRCUMFLEX ACCENT 1 DOWN TACK BELOW 1 DOWNWARDS ARROW 1 ENCLOSING CIRCLE 3 BACKSLASH 2 DIAMOND 2
  KEYCAP 2 SCREEN 2 SQUARE 2 UPWARD POINTING TRIANGLE 1 EQUALS SIGN BELOW 1 FERMATA 1 FOUR DOTS
  ABOVE 1 GLAGOLITIC LETTER AZU 3 BIG YUS 3 BUKY 3 CHRIVI 3 DJERVI 3 DOBRO 3 FITA 3 FRITU 3 GLAGOLI
  3 HERU 3 I 3 INITIAL IZHE 3 IOTATED BIG YUS 4 SMALL YUS 3 IZHE 3 KAKO 3 LJUDIJE 3 MYSLITE 3 NASHI
  3 ONU 3 POKOJI 3 RITSI 3 SHA 3 SHTA 3 SLOVO 3 SMALL YUS 3 TSI 3 TVRIDO 3 UKU 3 VEDE 3 YATI 3 YERI
  3 YERU 3 YESTU 3 YO 3 YU 3 ZEMLJA 3 ZHIVETE 1 GRANTHA DIGIT FIVE 3 FOUR 3 ONE 3 SIX 3 THREE 3 TWO
  3 ZERO 2 LETTER A 3 KA 3 NA 3 PA 3 VI 1 GRAPHEME JOINER 1 GRAVE ACCENT 3 BELOW 2 TONE MARK 1
  GRAVE-ACUTE-GRAVE 1 GRAVE-MACRON 1 GREEK DIALYTIKA TONOS 2 KORONIS 2 MUSICAL PENTASEME 3 TETRASEME
  3 TRISEME 2 PERISPOMENI 2 YPOGEGRAMMENI 1 HOMOTHETIC ABOVE 1 HOOK ABOVE 1 HORN 1 INFINITY 1
  INVERTED BREVE 3 BELOW 2 BRIDGE BELOW 2 DOUBLE ARCH ABOVE 4 BELOW 1 IS BELOW 1 KATAKANA-HIRAGANA
  SEMI-VOICED SOUND MARK 2 VOICED SOUND MARK 1 KAVYKA ABOVE LEFT 3 RIGHT 1 LATIN LETTER SMALL
  CAPITAL G 5 L 5 M 5 N 5 R 2 SMALL LETTER A 5 WITH DIAERESIS 4 AE 4 ALPHA 4 AO 4 AV 4 B 4 BETA 4 C
  5 CEDILLA 4 D 4 E 4 ESH 4 ETH 4 F 4 FLATTENED OPEN A ABOVE 4 G 4 H 4 I 4 INSULAR D 5 G 5 R 5 T 4 K
  4 L 5 WITH DOUBLE MIDDLE TILDE 4 LONG S 4 M 4 N 4 O 5 WITH DIAERESIS 6 LIGHT CENTRALIZATION STROKE
  4 P 4 R 5 BELOW 5 ROTUNDA 4 S 4 SCHWA 4 T 4 TURNED W BELOW 4 U 5 WITH DIAERESIS 6 LIGHT
  CENTRALIZATION STROKE 4 V 4 W 5 BELOW 4 X 4 Z 1 LEFT ANGLE ABOVE 3 BELOW 2 ARROW ABOVE 3 BELOW 2
  ARROWHEAD ABOVE 3 BELOW 2 HALF RING ABOVE 4 BELOW 2 HARPOON ABOVE 2 PARENTHESIS ABOVE LEFT 3 BELOW
  LEFT 2 RIGHT ARROW ABOVE 4 BELOW 2 TACK BELOW 1 LEFTWARDS ARROW OVERLAY 2 HARPOON WITH BARB
  DOWNWARDS 1 LIGATURE LEFT HALF 4 BELOW 2 RIGHT HALF 4 BELOW 1 LIGHT CENTRALIZATION STROKE BELOW 1
  LONG DOUBLE SOLIDUS OVERLAY 2 SOLIDUS OVERLAY 2 STROKE OVERLAY 2 VERTICAL LINE OVERLAY 1 LOW LINE
  1 MACRON 2 BELOW 2 LEFT HALF 4 BELOW 2 RIGHT HALF 4 BELOW 1 MACRON-ACUTE 1 MACRON-BREVE 1
  MACRON-GRAVE 1 MINUS SIGN BELOW 1 NOT TILDE ABOVE 1 NUMBER SIGN ABOVE 1 OGONEK 2 ABOVE 1 OLD
  PERMIC LETTER AN 4 DOI 4 NENOE 4 SII 4 ZATA 1 OPEN MARK BELOW 1 OVERLINE 1 PALATALIZED HOOK BELOW
  1 PARENTHESES ABOVE 2 BELOW 2 OVERLAY 1 PLUS SIGN ABOVE 3 BELOW 1 RETROFLEX HOOK BELOW 1 REVERSE
  SOLIDUS OVERLAY 1 REVERSED COMMA ABOVE 1 RIGHT ARROW ABOVE 3 BELOW 2 ARROWHEAD ABOVE 3 AND DOWN
  ARROWHEAD BELOW 4 UP ARROWHEAD BELOW 3 BELOW 2 HALF RING ABOVE 4 BELOW 2 HARPOON ABOVE 2
  PARENTHESIS ABOVE RIGHT 3 BELOW RIGHT 2 TACK BELOW 1 RIGHTWARDS HARPOON WITH BARB DOWNWARDS 1 RING
  ABOVE 2 BELOW 2 OVERLAY 1 SEAGULL BELOW 1 SHORT SOLIDUS OVERLAY 2 STROKE OVERLAY 2 VERTICAL LINE
  OVERLAY 1 SNAKE BELOW 1 SQUARE BELOW 2 BRACKETS ABOVE 1 STRONG CENTRALIZATION STROKE BELOW 1
  SUSPENSION MARK 1 THREE DOTS ABOVE 1 TILDE 2 BELOW 2 LEFT HALF BELOW 2 OVERLAY 2 RIGHT HALF BELOW
  1 TRIPLE ACUTE ACCENT 2 DOT 2 UNDERDOT 1 TURNED COMMA ABOVE 1 UP TACK ABOVE 3 BELOW 1 UPWARDS
  ARROW BELOW 1 UR ABOVE 1 US ABOVE 1 VERTICAL LINE ABOVE 3 BELOW 2 TILDE 1 WIDE BRIDGE ABOVE 2
  INVERTED BRIDGE BELOW 1 WIGGLY LINE BELOW 1 X ABOVE 2 BELOW 1 X-X BELOW 1 ZIGZAG ABOVE 2 BELOW 0
  COMET 0 COMMA 0 COMMERCIAL AT 1 MINUS SIGN 0 COMPASS 0 COMPLEMENT 0 COMPOSITION SYMBOL 0
  COMPRESSION 0 CONFETTI BALL 0 CONFOUNDED FACE 0 CONFUSED FACE 0 CONGRUENT WITH DOT ABOVE 0 CONICAL
  TAPER 0 CONJUNCTION 0 CONSTRUCTION SIGN 1 WORKER 0 CONTAINS AS MEMBER 2 NORMAL SUBGROUP 4 OR EQUAL
  TO 1 WITH LONG HORIZONTAL STROKE 2 OVERBAR 2 VERTICAL BAR AT END OF HORIZONTAL STROKE 0 CONTINUOUS
  UNDERLINE SYMBOL 0 CONTOUR INTEGRAL 0 CONTROL KNOBS 1 SEQUENCE INTRODUCER 0 CONVENIENCE STORE 0
  COOKED RICE 0 COOKIE 0 COOKING 0 COPTIC CAPITAL LETTER AKHMIMIC KHEI 3 ALFA 3 BOHAIRIC KHEI 3
  CROSSED SHEI 3 CRYPTOGRAMMIC EIE 4 GANGIA 4 NI 4 SHEI 3 DALDA 3 DEI 3 DIALECT-P ALEF 4 HORI 4 KAPA
  4 NI 3 EIE 3 FEI 3 FI 3 GAMMA 3 GANGIA 3 HATE 3 HORI 3 IAUDA 3 KAPA 3 KHEI 3 KHI 3 KSI 3 L-SHAPED
  HA 3 LAULA 3 MI 3 NI 3 O 3 OLD COPTIC AIN 5 DJA 5 ESH 5 GANGIA 5 HA 5 HAT 5 HEI 5 HORI 5 OOU 5
  SHEI 5 SHIMA 4 NUBIAN NGI 5 NYI 5 SHIMA 5 WAU 3 OOU 3 PI 3 PSI 3 RO 3 SAMPI 3 SHEI 3 SHIMA 3 SIMA
  3 SOU 3 TAU 3 THETHE 3 UA 3 VIDA 3 ZATA 1 COMBINING NI ABOVE 2 SPIRITUS ASPER 3 LENIS 1 EPACT
  DIGIT EIGHT 3 FIVE 3 FOUR 3 NINE 3 ONE 3 SEVEN 3 SIX 3 THREE 3 TWO 2 NUMBER EIGHT HUNDRED 3 EIGHTY
  3 FIFTY 3 FIVE HUNDRED 3 FORTY 3 FOUR HUNDRED 3 NINE HUNDRED 3 NINETY 3 ONE HUNDRED 3 SEVEN
  HUNDRED 3 SEVENTY 3 SIX HUNDRED 3 SIXTY 3 TEN 3 THIRTY 3 THREE HUNDRED 3 TWENTY 3 TWO HUNDRED 2
  THOUSANDS MARK 1 FRACTION ONE HALF 1 FULL STOP 1 MORPHOLOGICAL DIVIDER 1 OLD NUBIAN DIRECT
  QUESTION MARK 3 FULL STOP 3 INDIRECT QUESTION MARK 3 VERSE DIVIDER 1 SMALL LETTER AKHMIMIC KHEI 3
  ALFA 3 BOHAIRIC KHEI 3 CROSSED SHEI 3 CRYPTOGRAMMIC EIE 4 GANGIA 4 NI 4 SHEI 3 DALDA 3 DEI 3
  DIALECT-P ALEF 4 HORI 4 KAPA 4 NI 3 EIE 3 FEI 3 FI 3 GAMMA 3 GANGIA 3 HATE 3 HORI 3 IAUDA 3 KAPA 3
  KHEI 3 KHI 3 KSI 3 L-SHAPED HA 3 LAULA 3 MI 3 NI 3 O 3 OLD COPTIC AIN 5 DJA 5 ESH 5 GANGIA 5 HA 5
  HAT 5 HEI 5 HORI 5 OOU 5 SHEI 5 SHIMA 4 NUBIAN NGI 5 NYI 5 SHIMA 5 WAU 3 OOU 3 PI 3 PSI 3 RO 3
  SAMPI 3 SHEI 3 SHIMA 3 SIMA 3 SOU 3 TAU 3 THETHE 3 UA 3 VIDA 3 ZATA 1 SYMBOL KAI 2 KHI RO 2 MI RO
  2 PI RO 2 SHIMA SIMA 2 STAUROS 2 TAU RO 0 COPYLEFT SYMBOL 0 COPYRIGHT SIGN 0 CORAL 0 CORNISH VERSE
  DIVIDER 0 CORRESPONDS TO 0 COUCH AND LAMP 0 COUNTERBORE 0 COUNTERSINK 0 COUNTING ROD TENS DIGIT
  EIGHT 4 FIVE 4 FOUR 4 NINE 4 ONE 4 SEVEN 4 SIX 4 THREE 4 TWO 2 UNIT DIGIT EIGHT 4 FIVE 4 FOUR 4
  NINE 4 ONE 4 SEVEN 4 SIX 4 THREE 4 TWO 0 COUPLE WITH HEART 0 COW 1 FACE 0 CR 0 CRAB 0 CREDIT CARD
  0 CRESCENT MOON 0 CRICKET 1 BAT AND BALL 0 CROCODILE 0 CROISSANT 0 CROSS MARK 1 OF JERUSALEM 2
  LORRAINE 1 PATTY WITH LEFT CROSSBAR 3 RIGHT CROSSBAR 1 POMMEE 2 WITH HALF-CIRCLE BELOW 0 CROSSED
  FLAGS 1 NEGATIVE SQUARED LATIN CAPITAL LETTER P 1 SWORDS 0 CROSSING LANES 0 CROWN 0 CRUTCH 0
  CRUZEIRO SIGN 0 CRYING CAT FACE 1 FACE 0 CRYSTAL BALL 0 CSI 0 CUBE ROOT 0 CUCUMBER 0 CUNEIFORM
  NUMERIC SIGN EIGHT ASH 4 DISH 4 GESH2 4 SHAR2 4 U 5 VARIANT FORM 4 VARIANT FORM USSU 6 USSU3 3
  ELAMITE FIFTY 4 FORTY 4 ONE THIRD 4 TWO THIRDS 3 FIVE ASH 5 TENU 4 BAN2 5 VARIANT FORM 4 BURU 4
  DISH 4 GESH2 4 GESHU 4 SHAR2 4 SHARU 4 SIXTHS DISH 4 U 5 VARIANT FORM 3 FOUR ASH 5 TENU 4 BAN2 5
  VARIANT FORM 4 BURU 4 DISH 4 GESH2 4 GESHU 4 SHAR2 4 SHARU 4 U 5 VARIANT FORM 4 VARIANT FORM LIMMU
  7 A 7 B 6 LIMMU4 3 NIGIDAESH 3 NIGIDAMIN 3 NINE ASH 4 DISH 4 GESH2 4 SHAR2 4 U 5 VARIANT FORM 4
  VARIANT FORM ILIMMU 7 A 6 ILIMMU3 6 ILIMMU4 3 OLD ASSYRIAN ONE QUARTER 6 SIXTH 3 ONE BAN2 4 BURU 4
  EIGHTH ASH 4 ESHE3 4 GESH2 4 GESHU 4 HALF GUR 4 QUARTER ASH 5 GUR 4 SHARU 4 THIRD DISH 5 VARIANT
  FORM A 3 SEVEN ASH 4 DISH 4 GESH2 4 SHAR2 4 U 5 VARIANT FORM 4 VARIANT FORM IMIN A 7 B 6 IMIN3 3
  SHAR2 TIMES GAL PLUS DISH 7 MIN 3 SIX ASH 5 TENU 4 DISH 4 GESH2 4 SHAR2 4 U 5 VARIANT FORM 4
  VARIANT FORM ASH9 3 THREE ASH 5 TENU 4 BAN2 4 BURU 5 VARIANT FORM 4 DISH 4 GESH2 4 GESHU 4 SHAR2 5
  VARIANT FORM 4 SHARU 5 VARIANT FORM 4 VARIANT FORM ESH16 6 ESH21 3 TWO ASH 5 TENU 4 BAN2 4 BURU 4
  ESHE3 4 GESH2 4 GESHU 4 SHAR2 4 SHARU 4 THIRDS DISH 5 VARIANT FORM A 1 PUNCTUATION SIGN DIAGONAL
  COLON 4 QUADCOLON 4 TRICOLON 3 OLD ASSYRIAN WORD DIVIDER 3 VERTICAL COLON 1 SIGN A 3 TIMES A 4 BAD
  4 GAN2 TENU 4 HA 4 IGI 4 LAGAR GUNU 4 MUSH 4 SAG 2 A2 2 AB 3 GUNU 3 TIMES ASH2 4 DUN3 GUNU 4 GAL 4
  GAN2 TENU 4 HA 4 IGI GUNU 4 IMIN 4 LAGAB 4 NUN 5 TENU 4 SHESH 4 SHU2 4 U PLUS U PLUS U 2 AB2 3
  TIMES A 4 BALAG 4 GAN2 TENU 4 ME PLUS EN 4 SHA3 4 TAK4 2 AD 3 TIMES ESH2 2 AK 3 TIMES ERIN2 4
  SHITA PLUS GISH 2 AL 3 TIMES AL 4 DIM2 4 GISH 4 HA 4 KAD3 4 KI 4 SHE 4 USH 2 ALAN 2 ALEPH 2 AMAR 3
  TIMES KUG 4 SHE 2 AN 3 OVER AN 3 PLUS NAGA OPPOSING AN PLUS NAGA 5 SQUARED 3 THREE TIMES 2 ANSHE 2
  APIN 2 ARAD 3 TIMES KUR 2 ARKAB 2 ASAL2 2 ASH 3 KABA TENU 3 OVER ASH OVER ASH 7 CROSSING ASH OVER
  ASH OVER ASH 5 TUG2 OVER TUG2 TUG2 OVER TUG2 PAP 3 ZIDA TENU 2 ASH2 2 ASHGAB 2 BA 2 BAD 3 TIMES
  DISH TENU 2 BAG3 2 BAHAR2 3 TIMES AB2 4 NI 4 ZA 2 BAL 3 OVER BAL 2 BALAG 2 BAR 2 BARA2 2 BI 3
  TIMES A 4 GAR 4 IGI GUNU 2 BU 3 CROSSING BU 3 OVER BU AB 5 TIMES NA2 5 UN 2 BULUG 3 OVER BULUG 2
  BUR 2 BUR2 2 DA 3 TIMES TAK4 2 DAG 3 KISIM5 TIMES A PLUS MASH 5 AMAR 5 BALAG 5 BI 5 GA 6 PLUS MASH
  5 GI 5 GIR2 5 GUD 5 HA 5 IR 6 PLUS LU 5 KAK 5 LA 5 LU 6 PLUS MASH2 5 LUM 5 NE 5 PAP PLUS PAP 5 SI
  5 TAK4 5 U2 PLUS GIR2 7 MASH 5 USH 3 TIMES KUR 2 DAG3 2 DAM 2 DAR 2 DARA3 2 DARA4 2 DI 2 DIB 2 DIM
  3 TIMES IGI 4 SHE 4 U U U 2 DIM2 3 TIMES UD 2 DIN 3 KASKAL U GUNU DISH 2 DISH 3 PLUS SHU 2 DU 3
  GUNU 3 OVER DU 3 SHESHIG 2 DUB 3 TIMES ESH2 4 SHE 2 DUB2 2 DUG 3 TIMES ANSHE 4 ASH 5 AT LEFT 4 DIN
  4 DUN 4 ERIN2 4 GA 4 GI 4 GIR2 GUNU 4 GISH 4 HA 4 HI 4 IGI GUNU 4 KASKAL 4 KUR 4 KUSHU2 5 PLUS
  KASKAL 4 LAK-020 4 LAM 5 TIMES KUR 4 LUH PLUS GISH 4 MASH 4 MES 4 MI 4 NI 4 PI 4 SHE 4 SI GUNU 2
  DUGUD 2 DUH 2 DUN 2 DUN3 3 GUNU 4 GUNU 2 DUN4 2 DUR2 2 E 3 OVER E NUN OVER NUN 3 TIMES PAP 2 E2 3
  TIMES A PLUS HA PLUS DA 4 GAR 4 KUR 4 MI 4 PAP 4 SAL 4 SHE 4 U 2 EDIN 2 EGIR 2 EL 2 EN 3 CROSSING
  EN 3 OPPOSING EN 3 SQUARED 3 TIMES GAN2 5 TENU 4 ME 2 EREN 2 ERIN2 3 X 2 ESH2 3 CROSSING ESH2 2
  EZEN 3 SHESHIG TIMES ASH 5 HI 5 IGI GUNU 5 LA 5 LAL 5 ME 5 MES 5 SU 3 TIMES A 5 PLUS LAL 7 TIMES
  LAL 4 AN 4 BAD 4 DUN3 GUNU 6 GUNU 4 GUD 4 HA 5 GUNU 4 IGI GUNU 4 KASKAL 5 SQUARED 4 KU3 4 LA 4 LAL
  TIMES LAL 4 LI 4 LU 4 SHE 4 SU 4 U2 4 UD 2 GA 3 GUNU 2 GA2 3 OVER GA2 3 TIMES A PLUS DA PLUS HA 6
  HA 6 IGI 4 AB2 TENU PLUS TAB 4 AN 5 PLUS KAK PLUS A 4 ASH 4 ASH2 5 PLUS GAL 4 BAD 4 BAHAR2 4 BAR
  PLUS RA 4 BUR 5 PLUS RA 4 DA 4 DI 4 DIM GUNU 5 TIMES SHE 4 DUB 4 DUG TIMES IGI GUNU 6 KASKAL 4 EL
  5 PLUS LA 4 EN 5 TIMES GAN2 TENU 4 EREN 4 GA 4 GAN2 TENU 4 GAR 5 PLUS DI 6 NE 4 GI 4 GI4 5 PLUS A
  4 GIR2 PLUS SU 4 HA PLUS A 6 LU PLUS ESH2 4 HAL 5 PLUS LA 4 HI PLUS LI 4 HUB2 4 IGI GUNU 4 ISH
  PLUS HU PLUS ASH 4 KAK 4 KASKAL 4 KID 5 PLUS LAL 4 KU3 PLUS AN 4 KUSHU2 PLUS KASKAL 4 LA 4 LAM 5
  TIMES KUR 4 LUH 4 ME PLUS EN 4 MI 4 MUSH 4 NE 5 PLUS E2 6 GI 4 NUN 5 OVER NUN 4 PA 4 SAL 4 SAR 4
  SHE 5 PLUS TUR 4 SHID 4 SHIM 4 SUM 4 TAK4 4 U 4 UD 5 PLUS DU 4 ZIZ2 2 GABA 3 CROSSING GABA 3
  ROTATED NINETY DEGREES 2 GAD 3 OVER GAD GAR OVER GAR 2 GAL 3 GAD OVER GAD GAR OVER GAR 2 GALAM 2
  GAM 2 GAN 2 GAN2 3 CROSSING GAN2 3 OVER GAN2 3 TENU 2 GAR 2 GAR3 2 GASHAN 2 GE22 2 GESHTIN 3 TIMES
  KUR 4 U 2 GI 3 CROSSING GI 3 TIMES E 4 U 2 GI4 3 CROSSING GI4 3 OVER GI4 2 GIDIM 2 GIG 2 GIR2 3
  GUNU 2 GIR3 3 TIMES A PLUS IGI 4 GAN2 TENU 4 IGI 4 LU PLUS IGI 4 PA 2 GISAL 2 GISH 3 CROSSING GISH
  3 TENU 3 TIMES BAD 4 GISH CROSSING GISH 4 TAK4 2 GU 3 CROSSING GU 2 GU2 3 GUNU 3 TIMES IGI GUNU 4
  KAK 5 TIMES IGI GUNU 4 NUN 4 SAL PLUS TUG2 2 GUD 3 OVER GUD LUGAL 3 PLUS GISH TIMES TAK4 3 TIMES A
  PLUS KUR 4 KUR 2 GUL 2 GUM 3 TIMES SHE 2 GUR 2 GUR7 2 GURUN 2 GURUSH 2 HA 3 GUNU 3 TENU 4 GUNU 2
  HAL 2 HI 3 TIMES ASH 5 OVER HI TIMES ASH 4 ASH2 4 BAD 4 DISH 4 GAD 4 KIN 4 NUN 4 SHE 4 U 2 HU 2
  HUB2 3 TIMES AN 4 HAL 4 KASKAL 4 LISH 4 UD 2 HUL2 2 HUSH 2 I 3 A 2 IB 2 IDIM 3 OVER IDIM BUR 5
  SQUARED 2 IG 2 IGI 3 DIB 3 GUNU 3 OVER IGI SHIR OVER SHIR UD OVER UD 3 RI 2 IL 3 TIMES GAN2 TENU 2
  IL2 2 IM 3 CROSSING IM 3 OPPOSING IM 3 SQUARED 3 TIMES TAK4 2 IMIN 2 IN 2 IR 2 ISH 2 KA 3 TIMES A
  4 AD 5 PLUS KU3 4 ANSHE 4 ASH2 4 ASH3 4 BAD 4 BALAG 4 BAR 4 BI 4 BU 4 ERIN2 4 ESH2 4 GA 4 GAL 4
  GAN2 TENU 4 GAR 5 PLUS SHA3 PLUS A 4 GI 4 GIR2 4 GISH 5 CROSSING GISH 5 PLUS SAR 4 GU 4 GUD 4 GUR7
  4 HI TIMES ASH2 4 IGI 4 IM 4 KA 4 KAK 4 KI 4 KID 4 LI 4 LU 4 LUM 4 ME 5 PLUS DU 6 GI 6 TE 4 MI 5
  PLUS NUNUZ 4 NE 4 NUN 4 PA 4 PI 4 RU 4 SA 4 SAR 4 SHA 4 SHE 4 SHID 4 SHU 4 SHUL 4 SIG 4 SUHUR 4
  TAR 4 TU 4 U 5 U U 4 U2 4 UD 4 UMUM TIMES PA 4 UR 4 UR2 4 USH 4 ZI 2 KA2 3 CROSSING KA2 2 KAB 2
  KAD2 2 KAD3 2 KAD4 2 KAD5 3 OVER KAD5 2 KAK 3 TIMES IGI GUNU 2 KAL 3 CROSSING KAL 3 TIMES BAD 2
  KAM2 2 KAM4 2 KAP ELAMITE 2 KASKAL 3 LAGAB TIMES U OVER LAGAB TIMES U 3 OVER KASKAL LAGAB TIMES U
  OVER LAGAB TIMES U 2 KESH2 2 KI 3 TIMES BAD 4 U 4 UD 2 KID 2 KIN 2 KISAL 2 KISH 2 KISIM5 3 OVER
  KISIM5 2 KU 3 OVER HI TIMES ASH2 KU OVER HI TIMES ASH2 2 KU3 2 KU4 3 VARIANT FORM 2 KU7 2 KUL 3
  GUNU 2 KUN 2 KUR 3 OPPOSING KUR 2 KUSHU2 2 KWU318 2 LA 2 LAGAB 3 SQUARED 3 TIMES A 5 PLUS DA PLUS
  HA 6 GAR 6 LAL 4 AL 4 AN 4 ASH ZIDA TENU 4 BAD 4 BI 4 DAR 4 EN 4 GA 4 GAR 4 GI 4 GUD 5 PLUS GUD 4
  HA 4 HAL 4 HI TIMES NUN 4 IGI GUNU 4 IM 5 PLUS HA 6 LU 4 KI 4 KIN 4 KU3 4 KUL 5 PLUS HI PLUS A 4
  LAGAB 4 LISH 4 LU 4 LUL 4 ME 5 PLUS EN 4 MUSH 4 NE 4 SHE PLUS SUM 4 SHITA PLUS GISH PLUS ERIN2 7
  TENU 4 SHU2 5 PLUS SHU2 4 SUM 4 TAG 4 TAK4 4 TE PLUS A PLUS SU PLUS NA 4 U 5 PLUS A 6 U PLUS U 4
  U2 PLUS ASH 4 UD 4 USH 4 ZU OVER ZU 2 LAGAR 3 GUNU 4 OVER LAGAR GUNU SHE 3 TIMES SHE 5 PLUS SUM 2
  LAHSHU 2 LAK-003 2 LAK-021 2 LAK-025 2 LAK-030 2 LAK-050 2 LAK-051 2 LAK-062 2 LAK-079 OVER
  LAK-079 GUNU 2 LAK-080 2 LAK-081 OVER LAK-081 2 LAK-092 2 LAK-130 2 LAK-142 2 LAK-210 2 LAK-219 2
  LAK-220 2 LAK-225 2 LAK-228 2 LAK-238 2 LAK-265 2 LAK-266 2 LAK-343 2 LAK-347 2 LAK-348 2 LAK-383
  2 LAK-384 2 LAK-390 2 LAK-441 2 LAK-449 3 TIMES GU 4 IGI 4 PAP PLUS LU3 6 PAP PLUS LU3 4 U2 PLUS
  BA 2 LAK-450 2 LAK-457 2 LAK-470 2 LAK-483 2 LAK-490 2 LAK-492 2 LAK-493 2 LAK-495 2 LAK-550 2
  LAK-608 2 LAK-617 3 TIMES ASH 4 BAD 4 DUN3 GUNU GUNU 4 KU3 4 LA 4 TAR 4 TE 4 U2 4 UD 4 URUDA 2
  LAK-636 2 LAK-648 3 TIMES DUB 4 GA 4 IGI 5 GUNU 4 NI 4 PAP PLUS PAP PLUS LU3 4 SHESH PLUS KI 4 UD
  4 URUDA 2 LAK-724 2 LAK-749 2 LAL 3 TIMES LAL 2 LAM 3 TIMES KUR 5 PLUS RU 2 LI 2 LIL 2 LIMMU2 2
  LISH 2 LU 3 TIMES BAD 2 LU2 3 CROSSING LU2 3 GUNU TIMES ASH 3 OPPOSING LU2 3 SHESHIG 4 TIMES BAD 3
  SQUARED 3 TENU 3 TIMES AL 4 BAD 4 DISH 4 ESH2 5 PLUS LAL 5 TENU 4 GAN2 TENU 4 HAL 4 HI TIMES BAD 4
  IM 4 KAD2 4 KAD3 5 PLUS ASH 4 KI 4 LA PLUS ASH 4 LAGAB 4 ME PLUS EN 4 NE 4 NU 4 PAP 5 PLUS PAP
  PLUS LU3 4 SHU 4 SI PLUS ASH 4 SIK2 PLUS BU 4 TAK4 4 TUG2 2 LU3 2 LUGAL 3 OPPOSING LUGAL 3 OVER
  LUGAL 3 SHESHIG 2 LUH 2 LUL 2 LUM 3 OVER LUM 5 GAR OVER GAR 2 MA 3 GUNU 3 TIMES TAK4 2 MA2 2 MAH 2
  MAR 2 MASH 2 MASH2 2 ME 2 MES 2 MESH 2 MI 3 PLUS ZA7 2 MIN 2 MU 3 OVER MU 2 MUG 3 GUNU 2 MUNSUB 2
  MURGU2 2 MUSH 3 CROSSING MUSH 3 OVER MUSH 5 TIMES A PLUS NA 6 GA 6 KAK 3 TIMES A 4 KUR 4 ZA 2
  MUSH3 3 GUNU 3 TIMES A 5 PLUS DI 4 DI 4 ZA 2 NA 2 NA2 2 NA4 2 NAGA 3 INVERTED 3 OPPOSING NAGA 3
  TIMES SHU TENU 2 NAGAR 2 NAM 3 NUTILLU 2 NAM2 2 NE 3 SHESHIG 3 TIMES A 4 UD 2 NI 3 TIMES E 2 NI2 2
  NIM 3 TIMES GAN2 TENU 4 GAR PLUS GAN2 TENU 2 NIN 2 NIN9 2 NINDA2 3 TIMES AN 4 ASH 5 PLUS ASH 4 BAL
  4 DIM GUNU 4 GI 4 GISH 4 GUD 4 GUL 4 HI 4 KESH2 4 LAK-050 4 MASH 4 ME PLUS GAN2 TENU 4 NE 4 NUN 4
  PAP PLUS PAP 4 SHE 5 PLUS A AN 6 ASH 7 PLUS ASH 4 U 5 PLUS U 4 U2 PLUS ASH 4 URUDA 4 USH 2 NISAG 2
  NU 2 NU11 3 OVER NU11 BUR OVER BUR 3 ROTATED NINETY DEGREES 3 TENU 2 NUN 3 CROSSING NUN 5 LAGAR
  OVER LAGAR 3 LAGAR TIMES GAR 5 MASH 5 SAL 6 OVER NUN LAGAR TIMES SAL 5 USH 3 OVER NUN 3 TENU 2
  NUNUZ 3 AB2 TIMES ASHGAB 5 BI 5 DUG 5 GUD 5 IGI GUNU 5 KAD3 5 LA 5 NE 5 SILA3 5 U2 3 KISIM5 TIMES
  BI 6 U 2 PA 2 PAD 2 PAN 2 PAP 2 PESH2 3 ASTERISK 2 PI 3 CROSSING PI 3 TIMES A 4 AB 4 BI 4 BU 4 E 4
  I 4 IB 4 U 4 U2 2 PIR2 2 PIRIG 3 OPPOSING PIRIG 3 TIMES KAL 4 UD 4 ZA 2 RA 2 RAB 2 RI 2 RU 2 SA 2
  SAG 3 GUNU 4 TIMES HA 3 NUTILLU 3 OVER SAG 3 TIMES A 4 DU 4 DUB 4 EN 4 HA 4 IGI GUNU 4 KAK 4 KUR 4
  LUM 4 MI 4 NUN 4 SAL 4 SHE AT LEFT 4 SHID 4 TAB 4 TAK4 4 U2 4 UB 4 UM 4 UR 4 USH 2 SAL 3 LAGAB
  TIMES ASH2 2 SANGA2 2 SAR 2 SHA 2 SHA3 3 TIMES A 4 BAD 4 GISH 4 NE 4 SHU2 4 TUR 4 U 5 PLUS A 2
  SHA6 3 TENU 2 SHAB6 2 SHAR2 2 SHE 3 HU 3 OVER SHE 5 GAD OVER GAD GAR OVER GAR 5 TAB OVER TAB GAR
  OVER GAR 3 PLUS HUB2 4 NAM2 4 SAR 2 SHEG9 2 SHEN 2 SHESH 2 SHESH2 2 SHESHLAM 2 SHID 3 TIMES A 4 IM
  2 SHIM 3 TIMES A 4 BAL 4 BULUG 4 DIN 4 GAR 4 IGI 5 GUNU 4 KUSHU2 4 LUL 4 MUG 4 SAL 2 SHINIG 2 SHIR
  3 OVER SHIR BUR OVER BUR 3 TENU 2 SHITA 2 SHU 3 OVER INVERTED SHU 2 SHU2 3 PLUS DUG TIMES NI 4 E2
  TIMES AN 2 SHUBUR 2 SI 3 GUNU 3 TIMES TAK4 2 SIG 2 SIG4 3 OVER SIG4 SHU2 2 SIK2 2 SILA3 2 SU 3
  OVER SU 2 SUD 2 SUD2 2 SUHUR 2 SUM 2 SUMASH 2 SUR 2 SUR9 2 TA 3 ASTERISK 3 GUNU 3 TIMES HI 4 MI 2
  TAB 3 OVER TAB NI OVER NI DISH OVER DISH 3 SQUARED 2 TAG 3 TIMES BI 4 GUD 4 SHE 4 SHU 4 TUG2 4 UD
  2 TAK4 3 PLUS SAG 2 TAR 2 TE 3 GUNU 2 TI 3 TENU 2 TI2 2 TIL 2 TIR 3 OVER TIR 5 GAD OVER GAD GAR
  OVER GAR 3 TIMES TAK4 2 TU 2 TUG2 2 TUK 2 TUM 3 TIMES GAN2 TENU 4 THREE DISH 2 TUR 3 OVER TUR ZA
  OVER ZA 2 U 3 GUD 3 OVER U PA OVER PA GAR OVER GAR 5 SUR OVER SUR 5 U REVERSED OVER U REVERSED 3 U
  4 U 2 U2 2 UB 2 UD 3 GUNU 3 KUSHU2 3 SHESHIG 4 TIMES BAD 3 TIMES BAD 4 MI 4 U PLUS U PLUS U 9 GUNU
  2 UDUG 2 UM 3 TIMES LAGAB 4 ME 5 PLUS DA 4 SHA3 4 U 2 UMBIN 2 UMUM 3 TIMES KASKAL 4 PA 2 UN 3 GUNU
  2 UR 3 CROSSING UR 3 SHESHIG 2 UR2 3 INVERTED 3 TIMES A PLUS HA 6 NA 4 AL 4 HA 4 NUN 4 U2 5 PLUS
  ASH 6 BI 4 UD 2 UR4 2 URI 2 URI3 2 URU 3 TIMES A 4 ASHGAB 4 BAR 4 DARA3 4 DUN 4 GA 4 GAL 4 GAN2
  TENU 4 GAR 4 GU 4 HA 4 IGI 4 IM 4 ISH 4 KI 4 LAK-668 4 LU3 4 LUM 4 MIN 4 PA 4 SHE 4 SIG4 4 TU 4 U
  PLUS GUD 4 UD 4 URUDA 2 URUDA 3 TIMES U 2 USH 3 TIMES A 4 KU 4 KUR 4 TAK4 2 USH2 2 USHUMX 2 USHX 2
  UTUKI 2 UZ3 3 TIMES KASKAL 2 UZU 2 ZA 3 SQUARED TIMES KUR 3 TENU 2 ZA7 2 ZAG 2 ZAMX 2 ZE2 2 ZI 3
  OVER ZI 2 ZI3 2 ZIB 3 KABA TENU 2 ZIG 2 ZIZ2 2 ZU 3 OVER ZU PLUS SAR 2 ZU5 3 TIMES A 4 THREE DISH
  TENU 2 ZUBUR 2 ZUM 0 CUP ON BLACK SQUARE 1 WITH STRAW 0 CUPCAKE 0 CUPIDO 0 CURLING STONE 0 CURLY
  BRACKET EXTENSION 1 LOGICAL AND 2 OR 1 LOOP 0 CURRENCY EXCHANGE 1 SIGN 0 CURRY AND RICE 0 CURVED
  STEM PARAGRAPH SIGN ORNAMENT 0 CUSTARD 0 CUSTOMS 0 CUT OF MEAT 0 CYCLONE 0 CYLINDRICITY 0 CYPRIOT
  SYLLABLE A 2 E 2 I 2 JA 2 JO 2 KA 2 KE 2 KI 2 KO 2 KU 2 LA 2 LE 2 LI 2 LO 2 LU 2 MA 2 ME 2 MI 2 MO
  2 MU 2 NA 2 NE 2 NI 2 NO 2 NU 2 O 2 PA 2 PE 2 PI 2 PO 2 PU 2 RA 2 RE 2 RI 2 RO 2 RU 2 SA 2 SE 2 SI
  2 SO 2 SU 2 TA 2 TE 2 TI 2 TO 2 TU 2 U 2 WA 2 WE 2 WI 2 WO 2 XA 2 XE 2 ZA 2 ZO 0 CYPRO-MINOAN SIGN
  CM001 2 CM002 2 CM004 2 CM005 2 CM006 2 CM007 2 CM008 2 CM009 2 CM010 2 CM011 2 CM012 2 CM012B 2
  CM013 2 CM015 2 CM017 2 CM019 2 CM021 2 CM023 2 CM024 2 CM025 2 CM026 2 CM027 2 CM028 2 CM029 2
  CM030 2 CM033 2 CM034 2 CM035 2 CM036 2 CM037 2 CM038 2 CM039 2 CM040 2 CM041 2 CM044 2 CM046 2
  CM047 2 CM049 2 CM050 2 CM051 2 CM052 2 CM053 2 CM054 2 CM055 2 CM056 2 CM058 2 CM059 2 CM060 2
  CM061 2 CM062 2 CM063 2 CM064 2 CM066 2 CM067 2 CM068 2 CM069 2 CM070 2 CM071 2 CM072 2 CM073 2
  CM074 2 CM075 2 CM075B 2 CM076 2 CM078 2 CM079 2 CM080 2 CM081 2 CM082 2 CM083 2 CM084 2 CM085 2
  CM086 2 CM087 2 CM088 2 CM089 2 CM090 2 CM091 2 CM092 2 CM094 2 CM095 2 CM096 2 CM097 2 CM098 2
  CM099 2 CM100 2 CM101 2 CM102 2 CM103 2 CM104 2 CM105 2 CM107 2 CM108 2 CM109 2 CM110 2 CM112 2
  CM114 2 CM301 2 CM302 0 CYRILLIC CAPITAL LETTER A 4 WITH BREVE 5 DIAERESIS 3 ABKHASIAN CHE 5 WITH
  DESCENDER 4 DZE 4 HA 3 ALEUT KA 3 BARRED O 5 WITH DIAERESIS 3 BASHKIR KA 3 BE 3 BIG YUS 3
  BINOCULAR O 3 BLENDED YUS 3 BROAD OMEGA 3 BYELORUSSIAN-UKRAINIAN I 3 CCHE 3 CHE 4 WITH DESCENDER 5
  DIAERESIS 5 VERTICAL STROKE 3 CLOSED LITTLE YUS 3 CROSSED O 3 DCHE 3 DE 3 DJE 3 DJERV 3 DOUBLE
  MONOCULAR O 4 O 3 DWE 3 DZE 3 DZELO 3 DZHE 3 DZWE 3 DZZE 3 DZZHE 3 E 4 WITH DIAERESIS 3 EF 3 EL 4
  WITH DESCENDER 5 HOOK 5 MIDDLE HOOK 5 TAIL 3 EM 4 WITH TAIL 3 EN 4 WITH DESCENDER 5 HOOK 5 LEFT
  HOOK 5 MIDDLE HOOK 5 TAIL 3 ER 4 WITH TICK 3 ES 4 WITH DESCENDER 3 FITA 3 GHE 4 WITH DESCENDER 5
  MIDDLE HOOK 5 STROKE 6 AND HOOK 5 UPTURN 3 GJE 3 HA 4 WITH DESCENDER 5 HOOK 5 STROKE 3 HARD SIGN 3
  HWE 3 I 4 WITH DIAERESIS 5 GRAVE 5 MACRON 3 IE 4 WITH BREVE 5 GRAVE 3 IO 3 IOTA 3 IOTIFIED A 4 BIG
  YUS 4 CLOSED LITTLE YUS 4 E 4 LITTLE YUS 4 YAT 3 IZHITSA 4 WITH DOUBLE GRAVE ACCENT 3 JE 3 KA 4
  WITH DESCENDER 5 HOOK 5 STROKE 5 VERTICAL STROKE 3 KHAKASSIAN CHE 3 KJE 3 KOMI DE 4 DJE 4 DZJE 4
  LJE 4 NJE 4 SJE 4 TJE 4 ZJE 3 KOPPA 3 KSI 3 LHA 3 LITTLE YUS 3 LJE 3 MONOCULAR O 3 MONOGRAPH UK 3
  NEUTRAL YER 3 NJE 3 O 4 WITH DIAERESIS 3 OMEGA 4 WITH TITLO 3 OT 3 PE 4 WITH DESCENDER 5 MIDDLE
  HOOK 3 PSI 3 QA 3 REVERSED DZE 4 TSE 4 YU 4 ZE 3 RHA 3 ROUND OMEGA 3 SCHWA 4 WITH DIAERESIS 3
  SEMISOFT SIGN 3 SHA 3 SHCHA 3 SHHA 4 WITH DESCENDER 3 SHORT I 5 WITH TAIL 4 U 3 SHWE 3 SOFT DE 4
  EL 4 EM 4 SIGN 3 STRAIGHT U 5 WITH STROKE 3 TCHE 3 TE 4 WITH DESCENDER 5 MIDDLE HOOK 3 TSE 3 TSHE
  3 TSSE 3 TSWE 3 TWE 3 U 4 WITH DIAERESIS 5 DOUBLE ACUTE 5 MACRON 3 UK 3 UKRAINIAN IE 3 VE 3 WE 3
  YA 3 YAE 3 YAT 3 YERU 4 WITH BACK YER 5 DIAERESIS 3 YI 3 YN 3 YU 3 ZE 4 WITH DESCENDER 5 DIAERESIS
  3 ZEMLYA 3 ZHE 4 WITH BREVE 5 DESCENDER 5 DIAERESIS 3 ZHWE 2 LIGATURE A IE 3 EN GHE 3 TE TSE 1
  KAVYKA 1 LETTER MULTIOCULAR O 2 PALOCHKA 2 SMALL CAPITAL EL 1 PAYEROK 1 SMALL LETTER A 4 WITH
  BREVE 5 DIAERESIS 3 ABKHASIAN CHE 5 WITH DESCENDER 4 DZE 4 HA 3 ALEUT KA 3 BARRED O 5 WITH
  DIAERESIS 3 BASHKIR KA 3 BE 3 BIG YUS 3 BINOCULAR O 3 BLENDED YUS 3 BROAD OMEGA 3
  BYELORUSSIAN-UKRAINIAN I 3 CCHE 3 CHE 4 WITH DESCENDER 5 DIAERESIS 5 VERTICAL STROKE 3 CLOSED
  LITTLE YUS 3 CROSSED O 3 DCHE 3 DE 3 DJE 3 DJERV 3 DOUBLE MONOCULAR O 4 O 3 DWE 3 DZE 3 DZELO 3
  DZHE 3 DZWE 3 DZZE 3 DZZHE 3 E 4 WITH DIAERESIS 3 EF 3 EL 4 WITH DESCENDER 5 HOOK 5 MIDDLE HOOK 5
  TAIL 3 EM 4 WITH TAIL 3 EN 4 WITH DESCENDER 5 HOOK 5 LEFT HOOK 5 MIDDLE HOOK 5 TAIL 3 ER 4 WITH
  TICK 3 ES 4 WITH DESCENDER 3 FITA 3 GHE 4 WITH DESCENDER 5 MIDDLE HOOK 5 STROKE 6 AND HOOK 5
  UPTURN 3 GJE 3 HA 4 WITH DESCENDER 5 HOOK 5 STROKE 3 HARD SIGN 3 HWE 3 I 4 WITH DIAERESIS 5 GRAVE
  5 MACRON 3 IE 4 WITH BREVE 5 GRAVE 3 IO 3 IOTA 3 IOTIFIED A 4 BIG YUS 4 CLOSED LITTLE YUS 4 E 4
  LITTLE YUS 4 YAT 3 IZHITSA 4 WITH DOUBLE GRAVE ACCENT 3 JE 3 KA 4 WITH DESCENDER 5 HOOK 5 STROKE 5
  VERTICAL STROKE 3 KHAKASSIAN CHE 3 KJE 3 KOMI DE 4 DJE 4 DZJE 4 LJE 4 NJE 4 SJE 4 TJE 4 ZJE 3
  KOPPA 3 KSI 3 LHA 3 LITTLE YUS 3 LJE 3 LONG-LEGGED DE 3 MONOCULAR O 3 MONOGRAPH UK 3 NARROW O 3
  NEUTRAL YER 3 NJE 3 O 4 WITH DIAERESIS 3 OMEGA 4 WITH TITLO 3 OT 3 PALOCHKA 3 PE 4 WITH DESCENDER
  5 MIDDLE HOOK 3 PSI 3 QA 3 REVERSED DZE 4 TSE 4 YU 4 ZE 3 RHA 3 ROUND OMEGA 3 ROUNDED VE 3 SCHWA 4
  WITH DIAERESIS 3 SEMISOFT SIGN 3 SHA 3 SHCHA 3 SHHA 4 WITH DESCENDER 3 SHORT I 5 WITH TAIL 4 U 3
  SHWE 3 SOFT DE 4 EL 4 EM 4 SIGN 3 STRAIGHT U 5 WITH STROKE 3 TALL HARD SIGN 4 TE 4 YAT 3 TCHE 3 TE
  4 WITH DESCENDER 5 MIDDLE HOOK 3 THREE-LEGGED TE 3 TSE 3 TSHE 3 TSSE 3 TSWE 3 TWE 3 U 4 WITH
  DIAERESIS 5 DOUBLE ACUTE 5 MACRON 3 UK 3 UKRAINIAN IE 3 UNBLENDED UK 3 VE 3 WE 3 WIDE ES 3 YA 3
  YAE 3 YAT 3 YERU 4 WITH BACK YER 5 DIAERESIS 3 YI 3 YN 3 YU 3 ZE 4 WITH DESCENDER 5 DIAERESIS 3
  ZEMLYA 3 ZHE 4 WITH BREVE 5 DESCENDER 5 DIAERESIS 3 ZHWE 2 LIGATURE A IE 3 EN GHE 3 TE TSE 1
  THOUSANDS SIGN 0 DAGGER 1 KNIFE 1 WITH LEFT GUARD 2 RIGHT GUARD 0 DALET SYMBOL 0 DANCER 0 DANGO 0
  DARK SHADE 1 SUNGLASSES 0 DASH SYMBOL 1 WITH LEFT UPTURN 0 DASHED LOW LINE 1 OVERLINE 1
  TRIANGLE-HEADED RIGHTWARDS ARROW 0 DATA LINK ESCAPE 0 DC1 0 DC2 0 DC3 0 DC4 0 DCS 0 DEAF PERSON 0
  DECIDUOUS TREE 0 DECIMAL EXPONENT SYMBOL 1 SEPARATOR KEY SYMBOL 0 DECREASE FONT SIZE SYMBOL 0 DEER
  0 DEGREE CELSIUS 1 FAHRENHEIT 1 SIGN 0 DEL 0 DELETE 0 DELIVERY TRUCK 0 DELTA EQUAL TO 0 DENTISTRY
  SYMBOL LIGHT DOWN AND HORIZONTAL 6 WITH CIRCLE 7 TRIANGLE 7 WAVE 3 UP AND HORIZONTAL 6 WITH CIRCLE
  7 TRIANGLE 7 WAVE 3 VERTICAL AND BOTTOM LEFT 6 RIGHT 5 TOP LEFT 6 RIGHT 5 WAVE 4 WITH CIRCLE 5
  TRIANGLE 0 DEPARTMENT STORE 0 DERELICT HOUSE BUILDING 0 DESCENDING NODE 0 DESERET CAPITAL LETTER
  AY 3 BEE 3 CHEE 3 DEE 3 EF 3 EL 3 EM 3 EN 3 ENG 3 ER 3 ES 3 ESH 3 ETH 3 EW 3 GAY 3 H 3 JEE 3 KAY 3
  LONG A 4 AH 4 E 4 I 4 O 4 OO 3 OI 3 OW 3 PEE 3 SHORT A 4 AH 4 E 4 I 4 O 4 OO 3 TEE 3 THEE 3 VEE 3
  WU 3 YEE 3 ZEE 3 ZHEE 1 SMALL LETTER AY 3 BEE 3 CHEE 3 DEE 3 EF 3 EL 3 EM 3 EN 3 ENG 3 ER 3 ES 3
  ESH 3 ETH 3 EW 3 GAY 3 H 3 JEE 3 KAY 3 LONG A 4 AH 4 E 4 I 4 O 4 OO 3 OI 3 OW 3 PEE 3 SHORT A 4 AH
  4 E 4 I 4 O 4 OO 3 TEE 3 THEE 3 VEE 3 WU 3 YEE 3 ZEE 3 ZHEE 0 DESERT 1 ISLAND 0 DESKTOP COMPUTER 1
  WINDOW 0 DEVANAGARI ABBREVIATION SIGN 1 ACUTE ACCENT 1 CARET 1 DANDA 1 DIGIT EIGHT 2 FIVE 2 FOUR 2
  NINE 2 ONE 2 SEVEN 2 SIX 2 THREE 2 TWO 2 ZERO 1 DOUBLE DANDA 1 GAP FILLER 1 GRAVE ACCENT 1
  HEADSTROKE 1 JAIN OM 1 LETTER A 2 AA 2 AI 2 AU 2 AW 2 AY 2 BA 2 BBA 2 BHA 2 CA 2 CANDRA A 3 E 3 O
  2 CHA 2 DA 2 DDA 2 DDDA 2 DDDHA 2 DDHA 2 DHA 2 E 2 FA 2 GA 2 GGA 2 GHA 2 GHHA 2 GLOTTAL STOP 2 HA
  2 HEAVY YA 2 I 2 II 2 JA 2 JHA 2 JJA 2 KA 2 KHA 2 KHHA 2 LA 2 LLA 2 LLLA 2 MA 2 MARWARI DDA 2 NA 2
  NGA 2 NNA 2 NNNA 2 NYA 2 O 2 OE 2 OOE 2 PA 2 PHA 2 QA 2 RA 2 RHA 2 RRA 2 SA 2 SHA 2 SHORT A 3 E 3
  O 2 SSA 2 TA 2 THA 2 TTA 2 TTHA 2 U 2 UE 2 UU 2 UUE 2 VA 2 VOCALIC L 3 LL 3 R 3 RR 2 YA 2 YYA 2 ZA
  2 ZHA 1 OM 1 SIGN ANUSVARA 2 AVAGRAHA 2 CANDRABINDU 3 AVAGRAHA 3 THREE 3 TWO 3 VIRAMA 2 DOUBLE
  CANDRABINDU VIRAMA 2 HIGH SPACING DOT 2 INVERTED CANDRABINDU 2 NUKTA 2 PUSHPIKA 2 SIDDHAM 2
  SPACING CANDRABINDU 2 VIRAMA 2 VISARGA 1 STRESS SIGN ANUDATTA 3 UDATTA 1 VOWEL SIGN AA 3 AI 3 AU 3
  AW 3 AY 3 CANDRA E 4 LONG E 4 O 3 E 3 I 3 II 3 O 3 OE 3 OOE 3 PRISHTHAMATRA E 3 SHORT E 4 O 3 U 3
  UE 3 UU 3 UUE 3 VOCALIC L 4 LL 4 R 4 RR 0 DEVICE CONTROL FOUR 2 ONE 2 STRING 2 THREE 2 TWO 0
  DIAERESIS 0 DIAMETER SIGN 0 DIAMOND OPERATOR 1 SHAPE WITH A DOT INSIDE 1 TARGET 1 WITH BOTTOM HALF
  BLACK 2 LEFT HALF BLACK 2 RIGHT HALF BLACK 2 TOP HALF BLACK 0 DIE FACE-1 1 FACE-2 1 FACE-3 1
  FACE-4 1 FACE-5 1 FACE-6 0 DIESEL LOCOMOTIVE 0 DIFFERENCE BETWEEN 0 DIGIT EIGHT 2 COMMA 2 FULL
  STOP 1 FIVE 2 COMMA 2 FULL STOP 1 FOUR 2 COMMA 2 FULL STOP 1 NINE 2 COMMA 2 FULL STOP 1 ONE 2
  COMMA 2 FULL STOP 1 SEVEN 2 COMMA 2 FULL STOP 1 SIX 2 COMMA 2 FULL STOP 1 THREE 2 COMMA 2 FULL
  STOP 1 TWO 2 COMMA 2 FULL STOP 1 ZERO 2 COMMA 2 FULL STOP 0 DIGRAM FOR EARTH 2 EARTHLY HEAVEN 3
  HUMAN 2 GREATER YANG 3 YIN 2 HEAVENLY EARTH 2 HUMAN EARTH 2 LESSER YANG 3 YIN 0 DIMENSION ORIGIN 0
  DINGBAT CIRCLED SANS-SERIF DIGIT EIGHT 4 FIVE 4 FOUR 4 NINE 4 ONE 4 SEVEN 4 SIX 4 THREE 4 TWO 4
  ZERO 3 NUMBER TEN 1 NEGATIVE CIRCLED DIGIT EIGHT 4 FIVE 4 FOUR 4 NINE 4 ONE 4 SEVEN 4 SIX 4 THREE
  4 TWO 3 NUMBER TEN 3 SANS-SERIF DIGIT EIGHT 5 FIVE 5 FOUR 5 NINE 5 ONE 5 SEVEN 5 SIX 5 THREE 5 TWO
  5 ZERO 4 NUMBER TEN 0 DIRECT CURRENT SYMBOL FORM TWO 1 HIT 0 DISABLED CAR 0 DISAPPOINTED BUT
  RELIEVED FACE 1 FACE 0 DISCONTINUOUS UNDERLINE SYMBOL 0 DISGUISED FACE 0 DITTO MARK 0 DIVES AKURU
  DIGIT EIGHT 3 FIVE 3 FOUR 3 NINE 3 ONE 3 SEVEN 3 SIX 3 THREE 3 TWO 3 ZERO 2 DOUBLE DANDA 2 END OF
  TEXT MARK 2 GAP FILLER 2 INITIAL RA 2 LETTER A 3 AA 3 BA 3 BHA 3 CA 3 CHA 3 DA 3 DDA 3 DDHA 3 DHA
  3 E 3 GA 3 GHA 3 HA 3 I 3 II 3 JA 3 KA 3 KHA 3 LA 3 LLA 3 MA 3 NA 3 NGA 3 NNA 3 NYA 3 O 3 PA 3 PHA
  3 RA 3 SA 3 SHA 3 SSA 3 TA 3 THA 3 TTA 3 U 3 UU 3 VA 3 YA 3 YYA 3 ZA 2 MEDIAL RA 3 YA 2 PREFIXED
  NASAL SIGN 2 SIGN ANUSVARA 3 CANDRABINDU 3 HALANTA 3 NUKTA 2 VIRAMA 2 VOWEL SIGN AA 4 AI 4 E 4 I 4
  II 4 O 4 U 4 UU 0 DIVIDES 0 DIVING MASK 0 DIVISION SIGN 1 SLASH 1 TIMES 0 DIVORCE SYMBOL 0 DIYA
  LAMP 0 DIZZY FACE 1 SYMBOL 0 DLE 0 DNA DOUBLE HELIX 0 DO NOT LITTER SYMBOL 0 DOCUMENT 1 WITH
  PICTURE 2 TEXT 3 AND PICTURE 0 DODO 0 DOES NOT CONTAIN AS MEMBER 4 NORMAL SUBGROUP 6 OR EQUAL 2
  DIVIDE 3 WITH REVERSED NEGATION SLASH 2 FORCE 2 PRECEDE 3 OR EQUAL 2 PROVE 2 SUCCEED 3 OR EQUAL 0
  DOG 1 FACE 0 DOGRA ABBREVIATION SIGN 1 LETTER A 2 AA 2 AI 2 AU 2 BA 2 BHA 2 CA 2 CHA 2 DA 2 DDA 2
  DDHA 2 DHA 2 E 2 GA 2 GHA 2 HA 2 I 2 II 2 JA 2 JHA 2 KA 2 KHA 2 LA 2 MA 2 NA 2 NGA 2 NNA 2 NYA 2 O
  2 PA 2 PHA 2 RA 2 RRA 2 SA 2 SHA 2 SSA 2 TA 2 THA 2 TTA 2 TTHA 2 U 2 UU 2 VA 2 YA 1 SIGN ANUSVARA
  2 NUKTA 2 VIRAMA 2 VISARGA 1 VOWEL SIGN AA 3 AI 3 AU 3 E 3 I 3 II 3 O 3 U 3 UU 3 VOCALIC R 4 RR 0
  DOLLAR SIGN 0 DOLPHIN 0 DOMINO TILE HORIZONTAL BACK 2 HORIZONTAL-00-00 2 HORIZONTAL-00-01 2
  HORIZONTAL-00-02 2 HORIZONTAL-00-03 2 HORIZONTAL-00-04 2 HORIZONTAL-00-05 2 HORIZONTAL-00-06 2
  HORIZONTAL-01-00 2 HORIZONTAL-01-01 2 HORIZONTAL-01-02 2 HORIZONTAL-01-03 2 HORIZONTAL-01-04 2
  HORIZONTAL-01-05 2 HORIZONTAL-01-06 2 HORIZONTAL-02-00 2 HORIZONTAL-02-01 2 HORIZONTAL-02-02 2
  HORIZONTAL-02-03 2 HORIZONTAL-02-04 2 HORIZONTAL-02-05 2 HORIZONTAL-02-06 2 HORIZONTAL-03-00 2
  HORIZONTAL-03-01 2 HORIZONTAL-03-02 2 HORIZONTAL-03-03 2 HORIZONTAL-03-04 2 HORIZONTAL-03-05 2
  HORIZONTAL-03-06 2 HORIZONTAL-04-00 2 HORIZONTAL-04-01 2 HORIZONTAL-04-02 2 HORIZONTAL-04-03 2
  HORIZONTAL-04-04 2 HORIZONTAL-04-05 2 HORIZONTAL-04-06 2 HORIZONTAL-05-00 2 HORIZONTAL-05-01 2
  HORIZONTAL-05-02 2 HORIZONTAL-05-03 2 HORIZONTAL-05-04 2 HORIZONTAL-05-05 2 HORIZONTAL-05-06 2
  HORIZONTAL-06-00 2 HORIZONTAL-06-01 2 HORIZONTAL-06-02 2 HORIZONTAL-06-03 2 HORIZONTAL-06-04 2
  HORIZONTAL-06-05 2 HORIZONTAL-06-06 2 VERTICAL BACK 2 VERTICAL-00-00 2 VERTICAL-00-01 2
  VERTICAL-00-02 2 VERTICAL-00-03 2 VERTICAL-00-04 2 VERTICAL-00-05 2 VERTICAL-00-06 2
  VERTICAL-01-00 2 VERTICAL-01-01 2 VERTICAL-01-02 2 VERTICAL-01-03 2 VERTICAL-01-04 2
  VERTICAL-01-05 2 VERTICAL-01-06 2 VERTICAL-02-00 2 VERTICAL-02-01 2 VERTICAL-02-02 2
  VERTICAL-02-03 2 VERTICAL-02-04 2 VERTICAL-02-05 2 VERTICAL-02-06 2 VERTICAL-03-00 2
  VERTICAL-03-01 2 VERTICAL-03-02 2 VERTICAL-03-03 2 VERTICAL-03-04 2 VERTICAL-03-05 2
  VERTICAL-03-06 2 VERTICAL-04-00 2 VERTICAL-04-01 2 VERTICAL-04-02 2 VERTICAL-04-03 2
  VERTICAL-04-04 2 VERTICAL-04-05 2 VERTICAL-04-06 2 VERTICAL-05-00 2 VERTICAL-05-01 2
  VERTICAL-05-02 2 VERTICAL-05-03 2 VERTICAL-05-04 2 VERTICAL-05-05 2 VERTICAL-05-06 2
  VERTICAL-06-00 2 VERTICAL-06-01 2 VERTICAL-06-02 2 VERTICAL-06-03 2 VERTICAL-06-04 2
  VERTICAL-06-05 2 VERTICAL-06-06 0 DONG SIGN 0 DOOR 0 DOT ABOVE 1 MINUS 1 OPERATOR 1 PLUS 0 DOTTED
  CIRCLE 1 CROSS 1 FENCE 1 LINE FACE 1 OBELOS 1 RIGHT-POINTING ANGLE 1 SOLIDUS 1 SQUARE 1
  TRANSPOSITION MARKER 0 DOUBLE ACUTE ACCENT 1 CIRCLED DIGIT EIGHT 3 FIVE 3 FOUR 3 NINE 3 ONE 3
  SEVEN 3 SIX 3 THREE 3 TWO 2 NUMBER TEN 1 COLON EQUAL 1 CURLY LOOP 1 DAGGER 1 DOWN TACK 1
  EXCLAMATION MARK 1 HIGH-REVERSED-9 QUOTATION MARK 1 HYPHEN 1 INTEGRAL 1 INTERSECTION 1 LEFT ARC
  GREATER-THAN BRACKET 1 LOGICAL AND 2 OR 1 LOW LINE 1 LOW-9 QUOTATION MARK 1 LOW-REVERSED-9
  QUOTATION MARK 1 NESTED GREATER-THAN 2 LESS-THAN 3 WITH UNDERBAR 1 OBLIQUE HYPHEN 1 PLUS 1
  PRECEDES 1 PRIME 2 QUOTATION MARK 1 QUESTION MARK 1 RIGHT ARC LESS-THAN BRACKET 1 SOLIDUS OPERATOR
  1 SQUARE INTERSECTION 2 UNION 1 STACKED COMMA 1 STROKE NOT SIGN 1 SUBSET 1 SUCCEEDS 1 SUPERSET 1
  SUSPENSION MARK 1 UNION 1 UP TACK 1 VERTICAL BAR 3 DOUBLE LEFT TURNSTILE 4 RIGHT TURNSTILE 3 LEFT
  TURNSTILE 2 LINE 1 WAVY OVERLINE 0 DOUBLE-ENDED MULTIMAP 0 DOUBLE-LINE EQUAL TO OR GREATER-THAN 4
  LESS-THAN 1 SLANTED EQUAL TO OR GREATER-THAN 5 LESS-THAN 2 GREATER-THAN OR EQUAL TO 2 LESS-THAN OR
  EQUAL TO 0 DOUBLE-STRUCK CAPITAL C 2 GAMMA 2 H 2 N 2 P 2 PI 2 Q 2 R 2 Z 1 ITALIC CAPITAL D 2 SMALL
  D 3 E 3 I 3 J 1 N-ARY SUMMATION 1 SMALL GAMMA 2 PI 0 DOUBLED FEMALE SIGN 1 MALE SIGN 1 SYMBOL 0
  DOUGHNUT 0 DOVE OF PEACE 0 DOWN ARROWHEAD 1 FISH TAIL 1 RIGHT DIAGONAL ELLIPSIS 1 TACK 2 WITH
  CIRCLE BELOW 0 DOWN-POINTING RED TRIANGLE 1 SMALL RED TRIANGLE 1 TRIANGLE WITH LEFT HALF BLACK 3
  RIGHT HALF BLACK 0 DOWNWARD FACING HOOK 3 WITH DOT 2 NOTCHED HOOK 4 WITH DOT 0 DOWNWARDS ANCORA 1
  ARROW 2 AND RIGHT ONE EIGHTH BLOCK 2 FROM BAR 2 LEFTWARDS OF UPWARDS ARROW 2 TO BAR 2 WITH CORNER
  LEFTWARDS 3 DOUBLE STROKE 3 EQUILATERAL ARROWHEAD 3 HORIZONTAL STROKE 3 LARGE TRIANGLE ARROWHEAD 3
  MEDIUM TRIANGLE ARROWHEAD 3 NOTCHED TAIL 3 SMALL EQUILATERAL ARROWHEAD 4 TRIANGLE ARROWHEAD 3 TIP
  LEFTWARDS 4 RIGHTWARDS 1 BLACK ARROW 2 CIRCLED WHITE ARROW 1 COMPRESSED ARROW 1 DASHED ARROW 1
  DOUBLE ARROW 1 FINGER-POST ARROW 1 HARPOON WITH BARB LEFT BESIDE DOWNWARDS HARPOON WITH BARB RIGHT
  6 UPWARDS HARPOON WITH BARB RIGHT 5 FROM BAR 5 TO BAR 4 LEFTWARDS 4 RIGHT FROM BAR 5 TO BAR 4
  RIGHTWARDS 1 HEAVY ARROW 2 COMPRESSED ARROW 1 PAIRED ARROWS 1 QUADRUPLE ARROW 1 ROCKET 1
  SANS-SERIF ARROW 1 SQUARED ARROW 1 TRIANGLE ARROWHEAD 1 TRIANGLE-HEADED ARROW 3 LEFTWARDS OF
  UPWARDS TRIANGLE-HEADED ARROW 3 TO BAR 3 WITH BOLD SHAFT 4 DOUBLE HORIZONTAL STROKE 4 HEAVY SHAFT
  4 LONG TIP LEFTWARDS 6 RIGHTWARDS 4 MEDIUM SHAFT 4 NARROW SHAFT 4 VERY HEAVY SHAFT 2 DASHED ARROW
  2 PAIRED ARROWS 2 ZIGZAG ARROW 1 TRIPLE ARROW 1 TWO HEADED ARROW 1 TWO-HEADED ARROW WITH TRIANGLE
  ARROWHEADS 1 WHITE ARROW 3 WITHIN TRIANGLE ARROWHEAD 1 ZIGZAG ARROW 0 DRACHMA SIGN 0 DRAFTING
  POINT RIGHTWARDS ARROW 0 DRAGON 1 FACE 0 DRESS 0 DRIVE SLOW SIGN 0 DROMEDARY CAMEL 0 DROOLING FACE
  0 DROP OF BLOOD 0 DROPLET 0 DRUM WITH DRUMSTICKS 0 DUCK 0 DUMPLING 0 DUPLOYAN AFFIX ATTACHED E
  HOOK 3 I HOOK 3 LEFT-TO-RIGHT SECANT 3 SECANT 3 TAIL 3 TANGENT 4 HOOK 2 HIGH ACUTE 3 CIRCLE 3 DOT
  3 GRAVE 3 LINE 3 LONG GRAVE 3 TIGHT ACUTE 3 VERTICAL 4 SECANT 3 WAVE 2 LEFT HORIZONTAL SECANT 2
  LOW ACUTE 3 ARROW 3 CIRCLE 3 DOT 3 GRAVE 3 LINE 3 LONG GRAVE 3 TIGHT ACUTE 3 VERTICAL 4 SECANT 3
  WAVE 2 MID HORIZONTAL SECANT 3 VERTICAL SECANT 2 RIGHT HORIZONTAL SECANT 1 DOUBLE MARK 1 LETTER A
  2 AOU 2 B 2 D 3 S 2 DH 2 E 2 EE 2 EU 2 F 3 N 2 G 3 R S 2 H 2 HL 2 I 2 IE 2 J 3 M 4 S 3 N 4 S 3 S 4
  WITH DOT 3 WITH DOT 4 DOTS INSIDE AND ABOVE 2 K 3 M 3 R S 2 KK 2 L 2 LH 2 LONG I 3 U 2 M 3 N 4 S 3
  S 3 WITH DOT 2 N 3 M 4 S 3 S 3 WITH DOT 2 NASAL A 3 I 3 O 3 U 2 O 2 OA 2 OOH 2 OU 2 OW 2 P 3 N 2
  PERNIN AM 3 AN 2 R 3 S 2 RH 2 ROMANIAN I 3 U 2 S 3 J 4 S 3 K 4 R 3 M 3 N 3 P 4 R 3 S 3 T 4 R 3
  WITH DOT 5 BELOW 2 SHORT I 2 SLOAN AN 3 DH 3 EE 3 EH 3 EN 3 J 3 ON 3 OW 3 U 2 T 3 R S 3 S 2 TH 2 U
  3 N 2 UH 2 UI 2 V 2 VOCALIC M 2 W 3 R 2 WA 2 WEI 2 WH 2 WI 2 WO 2 WOW 2 X 2 XW 2 YE 1 PUNCTUATION
  CHINOOK FULL STOP 1 SIGN O WITH CROSS 1 THICK LETTER SELECTOR 0 DVD 0 E-MAIL SYMBOL 0 EAGLE 0 EAR
  1 OF MAIZE 2 RICE 1 WITH HEARING AID 0 EARTH 1 GLOBE AMERICAS 2 ASIA-AUSTRALIA 2 EUROPE-AFRICA 1
  GROUND 0 EAST SYRIAC CROSS 0 EDITORIAL CORONIS 0 EGG 0 EGYPTIAN HIEROGLYPH A001 2 A002 2 A003 2
  A004 2 A005 2 A005A 2 A006 2 A006A 2 A006B 2 A007 2 A008 2 A009 2 A010 2 A011 2 A012 2 A013 2 A014
  2 A014A 2 A015 2 A016 2 A017 2 A017A 2 A018 2 A019 2 A020 2 A021 2 A022 2 A023 2 A024 2 A025 2
  A026 2 A027 2 A028 2 A029 2 A030 2 A031 2 A032 2 A032A 2 A033 2 A034 2 A035 2 A036 2 A037 2 A038 2
  A039 2 A040 2 A040A 2 A041 2 A042 2 A042A 2 A043 2 A043A 2 A044 2 A045 2 A045A 2 A046 2 A047 2
  A048 2 A049 2 A050 2 A051 2 A052 2 A053 2 A054 2 A055 2 A056 2 A057 2 A058 2 A059 2 A060 2 A061 2
  A062 2 A063 2 A064 2 A065 2 A066 2 A067 2 A068 2 A069 2 A070 2 AA001 2 AA002 2 AA003 2 AA004 2
  AA005 2 AA006 2 AA007 2 AA007A 2 AA007B 2 AA008 2 AA009 2 AA010 2 AA011 2 AA012 2 AA013 2 AA014 2
  AA015 2 AA016 2 AA017 2 AA018 2 AA019 2 AA020 2 AA021 2 AA022 2 AA023 2 AA024 2 AA025 2 AA026 2
  AA027 2 AA028 2 AA029 2 AA030 2 AA031 2 AA032 2 B001 2 B002 2 B003 2 B004 2 B005 2 B005A 2 B006 2
  B007 2 B008 2 B009 2 BEGIN SEGMENT 2 C001 2 C002 2 C002A 2 C002B 2 C002C 2 C003 2 C004 2 C005 2
  C006 2 C007 2 C008 2 C009 2 C010 2 C010A 2 C011 2 C012 2 C013 2 C014 2 C015 2 C016 2 C017 2 C018 2
  C019 2 C020 2 C021 2 C022 2 C023 2 C024 2 D001 2 D002 2 D003 2 D004 2 D005 2 D006 2 D007 2 D008 2
  D008A 2 D009 2 D010 2 D011 2 D012 2 D013 2 D014 2 D015 2 D016 2 D017 2 D018 2 D019 2 D020 2 D021 2
  D022 2 D023 2 D024 2 D025 2 D026 2 D027 2 D027A 2 D028 2 D029 2 D030 2 D031 2 D031A 2 D032 2 D033
  2 D034 2 D034A 2 D035 2 D036 2 D037 2 D038 2 D039 2 D040 2 D041 2 D042 2 D043 2 D044 2 D045 2 D046
  2 D046A 2 D047 2 D048 2 D048A 2 D049 2 D050 2 D050A 2 D050B 2 D050C 2 D050D 2 D050E 2 D050F 2
  D050G 2 D050H 2 D050I 2 D051 2 D052 2 D052A 2 D053 2 D054 2 D054A 2 D055 2 D056 2 D057 2 D058 2
  D059 2 D060 2 D061 2 D062 2 D063 2 D064 2 D065 2 D066 2 D067 2 D067A 2 D067B 2 D067C 2 D067D 2
  D067E 2 D067F 2 D067G 2 D067H 2 E001 2 E002 2 E003 2 E004 2 E005 2 E006 2 E007 2 E008 2 E008A 2
  E009 2 E009A 2 E010 2 E011 2 E012 2 E013 2 E014 2 E015 2 E016 2 E016A 2 E017 2 E017A 2 E018 2 E019
  2 E020 2 E020A 2 E021 2 E022 2 E023 2 E024 2 E025 2 E026 2 E027 2 E028 2 E028A 2 E029 2 E030 2
  E031 2 E032 2 E033 2 E034 2 E034A 2 E036 2 E037 2 E038 2 END SEGMENT 2 F001 2 F001A 2 F002 2 F003
  2 F004 2 F005 2 F006 2 F007 2 F008 2 F009 2 F010 2 F011 2 F012 2 F013 2 F013A 2 F014 2 F015 2 F016
  2 F017 2 F018 2 F019 2 F020 2 F021 2 F021A 2 F022 2 F023 2 F024 2 F025 2 F026 2 F027 2 F028 2 F029
  2 F030 2 F031 2 F031A 2 F032 2 F033 2 F034 2 F035 2 F036 2 F037 2 F037A 2 F038 2 F038A 2 F039 2
  F040 2 F041 2 F042 2 F043 2 F044 2 F045 2 F045A 2 F046 2 F046A 2 F047 2 F047A 2 F048 2 F049 2 F050
  2 F051 2 F051A 2 F051B 2 F051C 2 F052 2 F053 2 G001 2 G002 2 G003 2 G004 2 G005 2 G006 2 G006A 2
  G007 2 G007A 2 G007B 2 G008 2 G009 2 G010 2 G011 2 G011A 2 G012 2 G013 2 G014 2 G015 2 G016 2 G017
  2 G018 2 G019 2 G020 2 G020A 2 G021 2 G022 2 G023 2 G024 2 G025 2 G026 2 G026A 2 G027 2 G028 2
  G029 2 G030 2 G031 2 G032 2 G033 2 G034 2 G035 2 G036 2 G036A 2 G037 2 G037A 2 G038 2 G039 2 G040
  2 G041 2 G042 2 G043 2 G043A 2 G044 2 G045 2 G045A 2 G046 2 G047 2 G048 2 G049 2 G050 2 G051 2
  G052 2 G053 2 G054 2 H001 2 H002 2 H003 2 H004 2 H005 2 H006 2 H006A 2 H007 2 H008 2 HORIZONTAL
  JOINER 2 I001 2 I002 2 I003 2 I004 2 I005 2 I005A 2 I006 2 I007 2 I008 2 I009 2 I009A 2 I010 2
  I010A 2 I011 2 I011A 2 I012 2 I013 2 I014 2 I015 2 INSERT AT BOTTOM END 5 START 4 TOP END 5 START
  2 K001 2 K002 2 K003 2 K004 2 K005 2 K006 2 K007 2 K008 2 L001 2 L002 2 L002A 2 L003 2 L004 2 L005
  2 L006 2 L006A 2 L007 2 L008 2 M001 2 M001A 2 M001B 2 M002 2 M003 2 M003A 2 M004 2 M005 2 M006 2
  M007 2 M008 2 M009 2 M010 2 M010A 2 M011 2 M012 2 M012A 2 M012B 2 M012C 2 M012D 2 M012E 2 M012F 2
  M012G 2 M012H 2 M013 2 M014 2 M015 2 M015A 2 M016 2 M016A 2 M017 2 M017A 2 M018 2 M019 2 M020 2
  M021 2 M022 2 M022A 2 M023 2 M024 2 M024A 2 M025 2 M026 2 M027 2 M028 2 M028A 2 M029 2 M030 2 M031
  2 M031A 2 M032 2 M033 2 M033A 2 M033B 2 M034 2 M035 2 M036 2 M037 2 M038 2 M039 2 M040 2 M040A 2
  M041 2 M042 2 M043 2 M044 2 N001 2 N002 2 N003 2 N004 2 N005 2 N006 2 N007 2 N008 2 N009 2 N010 2
  N011 2 N012 2 N013 2 N014 2 N015 2 N016 2 N017 2 N018 2 N018A 2 N018B 2 N019 2 N020 2 N021 2 N022
  2 N023 2 N024 2 N025 2 N025A 2 N026 2 N027 2 N028 2 N029 2 N030 2 N031 2 N032 2 N033 2 N033A 2
  N034 2 N034A 2 N035 2 N035A 2 N036 2 N037 2 N037A 2 N038 2 N039 2 N040 2 N041 2 N042 2 NL001 2
  NL002 2 NL003 2 NL004 2 NL005 2 NL005A 2 NL006 2 NL007 2 NL008 2 NL009 2 NL010 2 NL011 2 NL012 2
  NL013 2 NL014 2 NL015 2 NL016 2 NL017 2 NL017A 2 NL018 2 NL019 2 NL020 2 NU001 2 NU002 2 NU003 2
  NU004 2 NU005 2 NU006 2 NU007 2 NU008 2 NU009 2 NU010 2 NU010A 2 NU011 2 NU011A 2 NU012 2 NU013 2
  NU014 2 NU015 2 NU016 2 NU017 2 NU018 2 NU018A 2 NU019 2 NU020 2 NU021 2 NU022 2 NU022A 2 O001 2
  O001A 2 O002 2 O003 2 O004 2 O005 2 O005A 2 O006 2 O006A 2 O006B 2 O006C 2 O006D 2 O006E 2 O006F 2
  O007 2 O008 2 O009 2 O010 2 O010A 2 O010B 2 O010C 2 O011 2 O012 2 O013 2 O014 2 O015 2 O016 2 O017
  2 O018 2 O019 2 O019A 2 O020 2 O020A 2 O021 2 O022 2 O023 2 O024 2 O024A 2 O025 2 O025A 2 O026 2
  O027 2 O028 2 O029 2 O029A 2 O030 2 O030A 2 O031 2 O032 2 O033 2 O033A 2 O034 2 O035 2 O036 2
  O036A 2 O036B 2 O036C 2 O036D 2 O037 2 O038 2 O039 2 O040 2 O041 2 O042 2 O043 2 O044 2 O045 2
  O046 2 O047 2 O048 2 O049 2 O050 2 O050A 2 O050B 2 O051 2 OVERLAY MIDDLE 2 P001 2 P001A 2 P002 2
  P003 2 P003A 2 P004 2 P005 2 P006 2 P007 2 P008 2 P009 2 P010 2 P011 2 Q001 2 Q002 2 Q003 2 Q004 2
  Q005 2 Q006 2 Q007 2 R001 2 R002 2 R002A 2 R003 2 R003A 2 R003B 2 R004 2 R005 2 R006 2 R007 2 R008
  2 R009 2 R010 2 R010A 2 R011 2 R012 2 R013 2 R014 2 R015 2 R016 2 R016A 2 R017 2 R018 2 R019 2
  R020 2 R021 2 R022 2 R023 2 R024 2 R025 2 R026 2 R027 2 R028 2 R029 2 S001 2 S002 2 S002A 2 S003 2
  S004 2 S005 2 S006 2 S006A 2 S007 2 S008 2 S009 2 S010 2 S011 2 S012 2 S013 2 S014 2 S014A 2 S014B
  2 S015 2 S016 2 S017 2 S017A 2 S018 2 S019 2 S020 2 S021 2 S022 2 S023 2 S024 2 S025 2 S026 2
  S026A 2 S026B 2 S027 2 S028 2 S029 2 S030 2 S031 2 S032 2 S033 2 S034 2 S035 2 S035A 2 S036 2 S037
  2 S038 2 S039 2 S040 2 S041 2 S042 2 S043 2 S044 2 S045 2 S046 2 T001 2 T002 2 T003 2 T003A 2 T004
  2 T005 2 T006 2 T007 2 T007A 2 T008 2 T008A 2 T009 2 T009A 2 T010 2 T011 2 T011A 2 T012 2 T013 2
  T014 2 T015 2 T016 2 T016A 2 T017 2 T018 2 T019 2 T020 2 T021 2 T022 2 T023 2 T024 2 T025 2 T026 2
  T027 2 T028 2 T029 2 T030 2 T031 2 T032 2 T032A 2 T033 2 T033A 2 T034 2 T035 2 T036 2 U001 2 U002
  2 U003 2 U004 2 U005 2 U006 2 U006A 2 U006B 2 U007 2 U008 2 U009 2 U010 2 U011 2 U012 2 U013 2
  U014 2 U015 2 U016 2 U017 2 U018 2 U019 2 U020 2 U021 2 U022 2 U023 2 U023A 2 U024 2 U025 2 U026 2
  U027 2 U028 2 U029 2 U029A 2 U030 2 U031 2 U032 2 U032A 2 U033 2 U034 2 U035 2 U036 2 U037 2 U038
  2 U039 2 U040 2 U041 2 U042 2 V001 2 V001A 2 V001B 2 V001C 2 V001D 2 V001E 2 V001F 2 V001G 2 V001H
  2 V001I 2 V002 2 V002A 2 V003 2 V004 2 V005 2 V006 2 V007 2 V007A 2 V007B 2 V008 2 V009 2 V010 2
  V011 2 V011A 2 V011B 2 V011C 2 V012 2 V012A 2 V012B 2 V013 2 V014 2 V015 2 V016 2 V017 2 V018 2
  V019 2 V020 2 V020A 2 V020B 2 V020C 2 V020D 2 V020E 2 V020F 2 V020G 2 V020H 2 V020I 2 V020J 2
  V020K 2 V020L 2 V021 2 V022 2 V023 2 V023A 2 V024 2 V025 2 V026 2 V027 2 V028 2 V028A 2 V029 2
  V029A 2 V030 2 V030A 2 V031 2 V031A 2 V032 2 V033 2 V033A 2 V034 2 V035 2 V036 2 V037 2 V037A 2
  V038 2 V039 2 V040 2 V040A 2 VERTICAL JOINER 2 W001 2 W002 2 W003 2 W003A 2 W004 2 W005 2 W006 2
  W007 2 W008 2 W009 2 W009A 2 W010 2 W010A 2 W011 2 W012 2 W013 2 W014 2 W014A 2 W015 2 W016 2 W017
  2 W017A 2 W018 2 W018A 2 W019 2 W020 2 W021 2 W022 2 W023 2 W024 2 W024A 2 W025 2 X001 2 X002 2
  X003 2 X004 2 X004A 2 X004B 2 X005 2 X006 2 X006A 2 X007 2 X008 2 X008A 2 Y001 2 Y001A 2 Y002 2
  Y003 2 Y004 2 Y005 2 Y006 2 Y007 2 Y008 2 Z001 2 Z002 2 Z002A 2 Z002B 2 Z002C 2 Z002D 2 Z003 2
  Z003A 2 Z003B 2 Z004 2 Z004A 2 Z005 2 Z005A 2 Z006 2 Z007 2 Z008 2 Z009 2 Z010 2 Z011 2 Z012 2
  Z013 2 Z014 2 Z015 2 Z015A 2 Z015B 2 Z015C 2 Z015D 2 Z015E 2 Z015F 2 Z015G 2 Z015H 2 Z015I 2 Z016
  2 Z016A 2 Z016B 2 Z016C 2 Z016D 2 Z016E 2 Z016F 2 Z016G 2 Z016H 0 EIGHT PETALLED OUTLINED BLACK
  FLORETTE 1 POINTED BLACK STAR 2 PINWHEEL STAR 2 RECTILINEAR BLACK STAR 1 SPOKED ASTERISK 1
  TEARDROP-SPOKED PROPELLER ASTERISK 0 EIGHTH NOTE 0 EJECT SYMBOL 0 ELBASAN LETTER A 2 BE 2 CE 2 CHE
  2 DE 2 DHE 2 E 2 EI 2 FE 2 GE 2 GHAMMA 2 GHE 2 GJE 2 HE 2 I 2 JE 2 KE 2 KHE 2 LE 2 LLE 2 ME 2 NA 2
  NDE 2 NE 2 NJE 2 O 2 PE 2 QE 2 RE 2 RRE 2 SE 2 SHE 2 TE 2 THE 2 U 2 VE 2 XE 2 Y 2 ZE 2 ZHE 0
  ELECTRIC ARROW 1 LIGHT BULB 1 PLUG 1 TORCH 0 ELECTRICAL INTERSECTION 0 ELEMENT OF 2 OPENING
  DOWNWARDS 3 UPWARDS 2 WITH DOT ABOVE 3 LONG HORIZONTAL STROKE 3 OVERBAR 3 TWO HORIZONTAL STROKES 3
  UNDERBAR 3 VERTICAL BAR AT END OF HORIZONTAL STROKE 0 ELEPHANT 0 ELEVATOR 0 ELF 0 ELYMAIC LETTER
  ALEPH 2 AYIN 2 BETH 2 DALETH 2 GIMEL 2 HE 2 HETH 2 KAPH 2 LAMEDH 2 MEM 2 NUN 2 PE 2 QOPH 2 RESH 2
  SADHE 2 SAMEKH 2 SHIN 2 TAW 2 TETH 2 WAW 2 YODH 2 ZAYIN 1 LIGATURE ZAYIN-YODH 0 EM DASH 1 QUAD 1
  SPACE 0 EMOJI COMPONENT BALD 2 CURLY HAIR 2 RED HAIR 2 WHITE HAIR 1 MODIFIER FITZPATRICK TYPE-1-2
  3 TYPE-3 3 TYPE-4 3 TYPE-5 3 TYPE-6 0 EMPHASIS SYMBOL 0 EMPTY DOCUMENT 1 NEST 1 NOTE 2 PAD 2 PAGE
  1 PAGE 1 PAGES 1 SET 2 WITH LEFT ARROW ABOVE 3 OVERBAR 3 RIGHT ARROW ABOVE 3 SMALL CIRCLE ABOVE 0
  EN DASH 1 QUAD 1 SPACE 0 END OF GUARDED AREA 2 LINE 2 MEDIUM 2 PROOF 2 PROTECTED AREA 2 SELECTED
  AREA 2 TEXT 2 TRANSMISSION 3 BLOCK 1 WITH LEFTWARDS ARROW ABOVE 0 ENQ 0 ENQUIRY 0 ENTER SYMBOL 0
  ENVELOPE 1 WITH DOWNWARDS ARROW ABOVE 2 LIGHTNING 0 EOL 0 EOM 0 EOT 0 EPA 0 EQUAL AND PARALLEL TO
  1 TO BY DEFINITION 2 OR GREATER-THAN 3 LESS-THAN 3 PRECEDES 3 SUCCEEDS 0 EQUALS COLON 1 SIGN 2
  ABOVE LEFTWARDS ARROW 3 PLUS SIGN 3 RIGHTWARDS ARROW 3 TILDE OPERATOR 2 AND SLANTED PARALLEL 5
  WITH TILDE ABOVE 2 WITH BUMPY ABOVE 3 DOT BELOW 3 INFINITY BELOW 3 TWO DOTS ABOVE AND TWO DOTS
  BELOW 1 WITH ASTERISK 0 EQUIANGULAR TO 0 EQUIVALENT TO 1 WITH FOUR DOTS ABOVE 0 ERASE TO THE LEFT
  3 RIGHT 0 ERIS FORM ONE 2 TWO 0 ERROR-BARRED BLACK CIRCLE 2 DIAMOND 2 SQUARE 1 WHITE CIRCLE 2
  DIAMOND 2 SQUARE 0 ESA 0 ESC 0 ESCAPE 0 ESTIMATED SYMBOL 0 ESTIMATES 0 ETB 0 ETHIOPIC COLON 1
  COMBINING GEMINATION AND VOWEL LENGTH MARK 3 MARK 2 VOWEL LENGTH MARK 1 COMMA 1 DIGIT EIGHT 2 FIVE
  2 FOUR 2 NINE 2 ONE 2 SEVEN 2 SIX 2 THREE 2 TWO 1 FULL STOP 1 NUMBER EIGHTY 2 FIFTY 2 FORTY 2
  HUNDRED 2 NINETY 2 SEVENTY 2 SIXTY 2 TEN 3 THOUSAND 2 THIRTY 2 TWENTY 1 PARAGRAPH SEPARATOR 1
  PREFACE COLON 1 QUESTION MARK 1 SECTION MARK 1 SEMICOLON 1 SYLLABLE BA 2 BAA 2 BBA 2 BBAA 2 BBE 2
  BBEE 2 BBI 2 BBO 2 BBU 2 BE 2 BEE 2 BI 2 BO 2 BOA 2 BU 2 BWA 2 BWE 2 BWEE 2 BWI 2 CA 2 CAA 2 CCA 2
  CCAA 2 CCE 2 CCEE 2 CCHA 2 CCHAA 2 CCHE 2 CCHEE 2 CCHHA 2 CCHHAA 2 CCHHE 2 CCHHEE 2 CCHHI 2 CCHHO
  2 CCHHU 2 CCHI 2 CCHO 2 CCHU 2 CCI 2 CCO 2 CCU 2 CE 2 CEE 2 CHA 2 CHAA 2 CHE 2 CHEE 2 CHI 2 CHO 2
  CHOA 2 CHU 2 CHWA 2 CI 2 CO 2 COA 2 CU 2 CWA 2 DA 2 DAA 2 DDA 2 DDAA 2 DDE 2 DDEE 2 DDHAA 2 DDHE 2
  DDHEE 2 DDHI 2 DDHO 2 DDHU 2 DDI 2 DDO 2 DDOA 2 DDU 2 DDWA 2 DE 2 DEE 2 DI 2 DO 2 DOA 2 DU 2 DWA 2
  DZAA 2 DZE 2 DZEE 2 DZI 2 DZO 2 DZU 2 FA 2 FAA 2 FE 2 FEE 2 FI 2 FO 2 FU 2 FWA 2 FWE 2 FWEE 2 FWI
  2 FYA 2 GA 2 GAA 2 GE 2 GEE 2 GGA 2 GGAA 2 GGE 2 GGEE 2 GGI 2 GGO 2 GGU 2 GGWA 2 GGWAA 2 GGWE 2
  GGWEE 2 GGWI 2 GI 2 GLOTTAL A 3 AA 3 E 3 EE 3 I 3 O 3 OA 3 U 3 WA 2 GO 2 GOA 2 GU 2 GURAGE BWEE 3
  BWI 3 FWEE 3 FWI 3 GWE 3 GWEE 3 GWI 3 HHWA 3 KWE 3 KWEE 3 KWI 3 MWEE 3 MWI 3 PWEE 3 PWI 3 QWE 3
  QWEE 3 QWI 2 GWA 2 GWAA 2 GWE 2 GWEE 2 GWI 2 GYA 2 GYAA 2 GYE 2 GYEE 2 GYI 2 GYO 2 GYU 2 HA 2 HAA
  2 HE 2 HEE 2 HHA 2 HHAA 2 HHE 2 HHEE 2 HHI 2 HHO 2 HHU 2 HHWA 2 HHWE 2 HHWEE 2 HHWI 2 HHYA 2 HHYAA
  2 HHYE 2 HHYEE 2 HHYI 2 HHYO 2 HHYU 2 HI 2 HO 2 HOA 2 HU 2 JA 2 JAA 2 JE 2 JEE 2 JI 2 JO 2 JOA 2
  JU 2 JWA 2 KA 2 KAA 2 KE 2 KEE 2 KI 2 KO 2 KOA 2 KU 2 KWA 2 KWAA 2 KWE 2 KWEE 2 KWI 2 KXA 2 KXAA 2
  KXE 2 KXEE 2 KXI 2 KXO 2 KXU 2 KXWA 2 KXWAA 2 KXWE 2 KXWEE 2 KXWI 2 KYA 2 KYAA 2 KYE 2 KYEE 2 KYI
  2 KYO 2 KYU 2 LA 2 LAA 2 LE 2 LEE 2 LI 2 LO 2 LOA 2 LU 2 LWA 2 MA 2 MAA 2 ME 2 MEE 2 MI 2 MO 2 MOA
  2 MU 2 MWA 2 MWE 2 MWEE 2 MWI 2 MYA 2 NA 2 NAA 2 NE 2 NEE 2 NI 2 NO 2 NOA 2 NU 2 NWA 2 NYA 2 NYAA
  2 NYE 2 NYEE 2 NYI 2 NYO 2 NYOA 2 NYU 2 NYWA 2 PA 2 PAA 2 PE 2 PEE 2 PHA 2 PHAA 2 PHARYNGEAL A 3
  AA 3 E 3 EE 3 I 3 O 3 U 2 PHE 2 PHEE 2 PHI 2 PHO 2 PHOA 2 PHU 2 PHWA 2 PI 2 PO 2 POA 2 PU 2 PWA 2
  PWE 2 PWEE 2 PWI 2 QA 2 QAA 2 QE 2 QEE 2 QHA 2 QHAA 2 QHE 2 QHEE 2 QHI 2 QHO 2 QHU 2 QHWA 2 QHWAA
  2 QHWE 2 QHWEE 2 QHWI 2 QI 2 QO 2 QOA 2 QU 2 QWA 2 QWAA 2 QWE 2 QWEE 2 QWI 2 QYA 2 QYAA 2 QYE 2
  QYEE 2 QYI 2 QYO 2 QYU 2 RA 2 RAA 2 RE 2 REE 2 RI 2 RO 2 ROA 2 RU 2 RWA 2 RYA 2 SA 2 SAA 2 SE 2
  SEBATBEIT BWA 3 FWA 3 MWA 3 PWA 2 SEE 2 SHA 2 SHAA 2 SHE 2 SHEE 2 SHI 2 SHO 2 SHOA 2 SHU 2 SHWA 2
  SI 2 SO 2 SOA 2 SSA 2 SSAA 2 SSE 2 SSEE 2 SSI 2 SSO 2 SSU 2 SU 2 SWA 2 SZA 2 SZAA 2 SZE 2 SZEE 2
  SZI 2 SZO 2 SZU 2 SZWA 2 TA 2 TAA 2 TE 2 TEE 2 THA 2 THAA 2 THE 2 THEE 2 THI 2 THO 2 THOA 2 THU 2
  THWA 2 TI 2 TO 2 TOA 2 TSA 2 TSAA 2 TSE 2 TSEE 2 TSI 2 TSO 2 TSU 2 TSWA 2 TTHAA 2 TTHE 2 TTHEE 2
  TTHI 2 TTHO 2 TTHU 2 TU 2 TWA 2 TZA 2 TZAA 2 TZE 2 TZEE 2 TZI 2 TZO 2 TZOA 2 TZU 2 VA 2 VAA 2 VE 2
  VEE 2 VI 2 VO 2 VU 2 VWA 2 WA 2 WAA 2 WE 2 WEE 2 WI 2 WO 2 WOA 2 WU 2 XA 2 XAA 2 XE 2 XEE 2 XI 2
  XO 2 XOA 2 XU 2 XWA 2 XWAA 2 XWE 2 XWEE 2 XWI 2 XYA 2 XYAA 2 XYE 2 XYEE 2 XYI 2 XYO 2 XYU 2 YA 2
  YAA 2 YE 2 YEE 2 YI 2 YO 2 YOA 2 YU 2 ZA 2 ZAA 2 ZE 2 ZEE 2 ZHA 2 ZHAA 2 ZHE 2 ZHEE 2 ZHI 2 ZHO 2
  ZHU 2 ZHWA 2 ZI 2 ZO 2 ZOA 2 ZU 2 ZWA 2 ZZA 2 ZZAA 2 ZZE 2 ZZEE 2 ZZI 2 ZZO 2 ZZU 1 TONAL MARK
  CHIRET 3 DERET 3 DERET-HIDET 3 DIFAT 3 HIDET 3 KENAT 3 KURT 3 RIKRIK 3 SHORT RIKRIK 3 YIZET 1
  WORDSPACE 0 ETX 0 EULER CONSTANT 0 EURO SIGN 0 EURO-CURRENCY SIGN 0 EUROPEAN CASTLE 1 POST OFFICE
  0 EVERGREEN TREE 0 EXCESS 0 EXCLAMATION MARK 1 QUESTION MARK 0 EXPRESSIONLESS FACE 0 EXTENDED
  ARABIC-INDIC DIGIT EIGHT 3 FIVE 3 FOUR 3 NINE 3 ONE 3 SEVEN 3 SIX 3 THREE 3 TWO 3 ZERO 0
  EXTRATERRESTRIAL ALIEN 0 EXTREMELY HEAVY FIVE SPOKED ASTERISK 2 GREEK CROSS 2 SALTIRE 2 SIX SPOKED
  ASTERISK 2 WHITE CIRCLE 3 SQUARE 0 EYE 0 EYEGLASSES 0 EYES 0 FACE HOLDING BACK TEARS 1 MASSAGE 1
  PALM 1 SAVOURING DELICIOUS FOOD 1 SCREAMING IN FEAR 1 THROWING A KISS 1 WITH COLD SWEAT 2 COWBOY
  HAT 2 DIAGONAL MOUTH 2 FINGER COVERING CLOSED LIPS 2 HEAD-BANDAGE 2 LOOK OF TRIUMPH 2 MEDICAL MASK
  2 MONOCLE 2 NO GOOD GESTURE 2 OK GESTURE 2 ONE EYEBROW RAISED 2 OPEN EYES AND HAND OVER MOUTH 3
  MOUTH 4 AND COLD SWEAT 4 VOMITING 2 PARTY HORN AND PARTY HAT 2 PEEKING EYE 2 PLEADING EYES 2
  ROLLING EYES 2 STUCK-OUT TONGUE 4 AND TIGHTLY-CLOSED EYES 5 WINKING EYE 2 TEARS OF JOY 2
  THERMOMETER 2 UNEVEN EYES AND WAVY MOUTH 1 WITHOUT MOUTH 0 FACSIMILE SIGN 0 FACTORY 0 FAIRY 0
  FALAFEL 0 FALLEN LEAF 0 FALLING DIAGONAL CROSSING NORTH EAST ARROW 3 RISING DIAGONAL 2 IN WHITE
  CIRCLE IN BLACK SQUARE 0 FAMILY 0 FARSI SYMBOL 0 FATHER CHRISTMAS 0 FAX ICON 1 MACHINE 0 FEARFUL
  FACE 0 FEATHER 0 FEMALE SIGN 0 FEMININE ORDINAL INDICATOR 0 FENCER 0 FERRIS WHEEL 0 FERRY 0 FF 0
  FIELD HOCKEY STICK AND BALL 0 FIGURE DASH 1 SPACE 0 FILE CABINET 1 FOLDER 1 SEPARATOR 0 FILM
  FRAMES 1 PROJECTOR 0 FINITE PART INTEGRAL 0 FIRE 1 ENGINE 1 EXTINGUISHER 0 FIRECRACKER 0 FIREWORK
  SPARKLER 0 FIREWORKS 0 FIRST PLACE MEDAL 1 QUARTER MOON 3 SYMBOL 3 WITH FACE 1 STRONG ISOLATE 0
  FISH 1 CAKE WITH SWIRL DESIGN 0 FISHEYE 0 FISHING POLE AND FISH 0 FISTED HAND SIGN 0 FIVE DOT MARK
  2 PUNCTUATION 0 FLAG IN HOLE 0 FLAMINGO 0 FLAT SHOE 0 FLATBREAD 0 FLATNESS 0 FLEUR-DE-LIS 0 FLEXED
  BICEPS 0 FLOPPY DISK 0 FLORAL HEART 0 FLOWER 1 PLAYING CARDS 1 PUNCTUATION MARK 0 FLUSHED FACE 0
  FLY 0 FLYING DISC 1 ENVELOPE 1 SAUCER 0 FOG 0 FOGGY 0 FOLDER 0 FONDUE 0 FOOT 0 FOOTPRINTS 0 FOR
  ALL 0 FORCES 0 FORK AND KNIFE 3 WITH PLATE 0 FORKED PARAGRAPHOS 0 FORKING 0 FORM FEED 0 FORTUNE
  COOKIE 0 FOUNTAIN 0 FOUR BALLOON-SPOKED ASTERISK 1 CLUB-SPOKED ASTERISK 1 CORNER ARROWS CIRCLING
  ANTICLOCKWISE 1 DOT MARK 2 PUNCTUATION 1 LEAF CLOVER 1 POINTED BLACK STAR 1 TEARDROP-SPOKED
  ASTERISK 0 FOUR-PER-EM SPACE 0 FOURTH ROOT 0 FOX FACE 0 FRACTION NUMERATOR ONE 1 SLASH 0 FRAME
  WITH AN X 2 PICTURE 2 TILES 0 FREEZING FACE 0 FRENCH FRANC SIGN 1 FRIES 0 FRIED SHRIMP 0 FROG FACE
  0 FRONT-FACING BABY CHICK 0 FRONT-TILTED SHADOWED WHITE RIGHTWARDS ARROW 0 FROWN 0 FROWNING FACE
  WITH OPEN MOUTH 0 FS 0 FSI 0 FUEL PUMP 0 FULL BLOCK 1 MOON SYMBOL 2 WITH FACE 1 OUTER JOIN 1 STOP
  0 FULLWIDTH AMPERSAND 1 APOSTROPHE 1 ASTERISK 1 BROKEN BAR 1 CENT SIGN 1 CIRCUMFLEX ACCENT 1 COLON
  1 COMMA 1 COMMERCIAL AT 1 DIGIT EIGHT 2 FIVE 2 FOUR 2 NINE 2 ONE 2 SEVEN 2 SIX 2 THREE 2 TWO 2
  ZERO 1 DOLLAR SIGN 1 EQUALS SIGN 1 EXCLAMATION MARK 1 FULL STOP 1 GRAVE ACCENT 1 GREATER-THAN SIGN
  1 HYPHEN-MINUS 1 LATIN CAPITAL LETTER A 4 B 4 C 4 D 4 E 4 F 4 G 4 H 4 I 4 J 4 K 4 L 4 M 4 N 4 O 4
  P 4 Q 4 R 4 S 4 T 4 U 4 V 4 W 4 X 4 Y 4 Z 2 SMALL LETTER A 4 B 4 C 4 D 4 E 4 F 4 G 4 H 4 I 4 J 4 K
  4 L 4 M 4 N 4 O 4 P 4 Q 4 R 4 S 4 T 4 U 4 V 4 W 4 X 4 Y 4 Z 1 LEFT CURLY BRACKET 2 PARENTHESIS 2
  SQUARE BRACKET 2 WHITE PARENTHESIS 1 LESS-THAN SIGN 1 LOW LINE 1 MACRON 1 NOT SIGN 1 NUMBER SIGN 1
  PERCENT SIGN 1 PLUS SIGN 1 POUND SIGN 1 QUESTION MARK 1 QUOTATION MARK 1 REVERSE SOLIDUS 1 RIGHT
  CURLY BRACKET 2 PARENTHESIS 2 SQUARE BRACKET 2 WHITE PARENTHESIS 1 SEMICOLON 1 SOLIDUS 1 TILDE 1
  VERTICAL LINE 1 WON SIGN 1 YEN SIGN 0 FUNCTION APPLICATION 0 FUNERAL URN 0 FUSE 0 FVS1 0 FVS2 0
  FVS3 0 FVS4 0 GAME DIE 0 GARLIC 0 GEAR 1 WITH HANDLES 1 WITHOUT HUB 0 GEM STONE 0 GEMINI 0 GENIE 0
  GEOMETRIC PROPORTION 0 GEOMETRICALLY EQUAL TO 1 EQUIVALENT TO 0 GEORGIAN CAPITAL LETTER AEN 3 AN 3
  BAN 3 CAN 3 CHAR 3 CHIN 3 CIL 3 DON 3 EN 3 GAN 3 GHAN 3 HAE 3 HAR 3 HE 3 HIE 3 HOE 3 IN 3 JHAN 3
  JIL 3 KAN 3 KHAR 3 LAS 3 MAN 3 NAR 3 ON 3 PAR 3 PHAR 3 QAR 3 RAE 3 SAN 3 SHIN 3 TAN 3 TAR 3 UN 3
  VIN 3 WE 3 XAN 3 YN 3 ZEN 3 ZHAR 1 LETTER AEN 2 AIN 2 AN 2 BAN 2 CAN 2 CHAR 2 CHIN 2 CIL 2 DON 2
  ELIFI 2 EN 2 FI 2 GAN 2 GHAN 2 HAE 2 HAR 2 HARD SIGN 2 HE 2 HIE 2 HOE 2 IN 2 JHAN 2 JIL 2 KAN 2
  KHAR 2 LABIAL SIGN 2 LAS 2 MAN 2 NAR 2 ON 2 PAR 2 PHAR 2 QAR 2 RAE 2 SAN 2 SHIN 2 TAN 2 TAR 2
  TURNED GAN 2 UN 2 VIN 2 WE 2 XAN 2 YN 2 ZEN 2 ZHAR 1 MTAVRULI CAPITAL LETTER AEN 4 AIN 4 AN 4 BAN
  4 CAN 4 CHAR 4 CHIN 4 CIL 4 DON 4 ELIFI 4 EN 4 FI 4 GAN 4 GHAN 4 HAE 4 HAR 4 HARD SIGN 4 HE 4 HIE
  4 HOE 4 IN 4 JHAN 4 JIL 4 KAN 4 KHAR 4 LABIAL SIGN 4 LAS 4 MAN 4 NAR 4 ON 4 PAR 4 PHAR 4 QAR 4 RAE
  4 SAN 4 SHIN 4 TAN 4 TAR 4 TURNED GAN 4 UN 4 VIN 4 WE 4 XAN 4 YN 4 ZEN 4 ZHAR 1 PARAGRAPH
  SEPARATOR 1 SMALL LETTER AEN 3 AN 3 BAN 3 CAN 3 CHAR 3 CHIN 3 CIL 3 DON 3 EN 3 GAN 3 GHAN 3 HAE 3
  HAR 3 HE 3 HIE 3 HOE 3 IN 3 JHAN 3 JIL 3 KAN 3 KHAR 3 LAS 3 MAN 3 NAR 3 ON 3 PAR 3 PHAR 3 QAR 3
  RAE 3 SAN 3 SHIN 3 TAN 3 TAR 3 UN 3 VIN 3 WE 3 XAN 3 YN 3 ZEN 3 ZHAR 0 GERMAN PENNY SIGN 0 GETA
  MARK 0 GHOST 0 GIMEL SYMBOL 0 GIRAFFE FACE 0 GIRL 0 GIRLS SYMBOL 0 GLAGOLITIC CAPITAL LETTER AZU 3
  BIG YUS 3 BUKY 3 CAUDATE CHRIVI 3 CHRIVI 3 DJERVI 3 DOBRO 3 DZELO 3 FITA 3 FRITU 3 GLAGOLI 3 HERU
  3 I 3 INITIAL IZHE 3 IOTATED BIG YUS 4 SMALL YUS 3 IZHE 3 IZHITSA 3 KAKO 3 LATINATE MYSLITE 3
  LJUDIJE 3 MYSLITE 3 NASHI 3 ONU 3 OTU 3 PE 3 POKOJI 3 RITSI 3 SHA 3 SHTA 3 SHTAPIC 3 SLOVO 3 SMALL
  YUS 5 WITH TAIL 3 SPIDERY HA 3 TROKUTASTI A 3 TSI 3 TVRIDO 3 UKU 3 VEDE 3 YATI 3 YERI 3 YERU 3
  YESTU 3 YO 3 YU 3 ZEMLJA 3 ZHIVETE 1 SMALL LETTER AZU 3 BIG YUS 3 BUKY 3 CAUDATE CHRIVI 3 CHRIVI 3
  DJERVI 3 DOBRO 3 DZELO 3 FITA 3 FRITU 3 GLAGOLI 3 HERU 3 I 3 INITIAL IZHE 3 IOTATED BIG YUS 4
  SMALL YUS 3 IZHE 3 IZHITSA 3 KAKO 3 LATINATE MYSLITE 3 LJUDIJE 3 MYSLITE 3 NASHI 3 ONU 3 OTU 3 PE
  3 POKOJI 3 RITSI 3 SHA 3 SHTA 3 SHTAPIC 3 SLOVO 3 SMALL YUS 5 WITH TAIL 3 SPIDERY HA 3 TROKUTASTI
  A 3 TSI 3 TVRIDO 3 UKU 3 VEDE 3 YATI 3 YERI 3 YERU 3 YESTU 3 YO 3 YU 3 ZEMLJA 3 ZHIVETE 0 GLASS OF
  MILK 0 GLEICH STARK 0 GLOBE WITH MERIDIANS 0 GLOVES 0 GLOWING STAR 0 GOAL NET 0 GOAT 0 GOGGLES 0
  GOLFER 0 GORILLA 0 GOTHIC LETTER AHSA 2 AIHVUS 2 BAIRKAN 2 DAGS 2 EIS 2 FAIHU 2 GIBA 2 HAGL 2
  HWAIR 2 IGGWS 2 IUJA 2 JER 2 KUSMA 2 LAGUS 2 MANNA 2 NAUTHS 2 NINE HUNDRED 2 NINETY 2 OTHAL 2
  PAIRTHRA 2 QAIRTHRA 2 RAIDA 2 SAUIL 2 TEIWS 2 THIUTH 2 URUS 2 WINJA 0 GRADUATION CAP 0 GRANTHA AU
  LENGTH MARK 1 LETTER A 2 AA 2 AI 2 AU 2 BA 2 BHA 2 CA 2 CHA 2 DA 2 DDA 2 DDHA 2 DHA 2 EE 2 GA 2
  GHA 2 HA 2 I 2 II 2 JA 2 JHA 2 KA 2 KHA 2 LA 2 LLA 2 MA 2 NA 2 NGA 2 NNA 2 NYA 2 OO 2 PA 2 PHA 2
  RA 2 SA 2 SHA 2 SSA 2 TA 2 THA 2 TTA 2 TTHA 2 U 2 UU 2 VA 2 VEDIC ANUSVARA 3 DOUBLE ANUSVARA 2
  VOCALIC L 3 LL 3 R 3 RR 2 YA 1 OM 1 SIGN ANUSVARA 2 AVAGRAHA 2 CANDRABINDU 2 COMBINING ANUSVARA
  ABOVE 2 NUKTA 2 PLUTA 2 VIRAMA 2 VISARGA 1 VOWEL SIGN AA 3 AI 3 AU 3 EE 3 I 3 II 3 OO 3 U 3 UU 3
  VOCALIC L 4 LL 4 R 4 RR 0 GRAPES 0 GRAVE ACCENT 0 GREATER-THAN ABOVE DOUBLE-LINE EQUAL ABOVE
  LESS-THAN 2 LESS-THAN ABOVE DOUBLE-LINE EQUAL 2 RIGHTWARDS ARROW 2 SIMILAR ABOVE LESS-THAN 3 OR
  EQUAL 2 SLANTED EQUAL ABOVE LESS-THAN ABOVE SLANTED EQUAL 1 AND NOT APPROXIMATE 2 SINGLE-LINE NOT
  EQUAL TO 1 BESIDE LESS-THAN 1 BUT NOT EQUAL TO 3 EQUIVALENT TO 1 CLOSED BY CURVE 4 ABOVE SLANTED
  EQUAL 1 EQUAL TO OR LESS-THAN 1 OR APPROXIMATE 2 EQUAL TO 2 EQUIVALENT TO 2 LESS-THAN 2 SLANTED
  EQUAL TO 5 WITH DOT ABOVE 8 LEFT 7 INSIDE 1 OVER EQUAL TO 1 OVERLAPPING LESS-THAN 1 SIGN 1 WITH
  CIRCLE INSIDE 2 DOT 2 QUESTION MARK ABOVE 0 GREEK ACROPHONIC ATTIC FIFTY 4 STATERS 4 TALENTS 4
  THOUSAND 5 STATERS 3 FIVE 4 HUNDRED 5 STATERS 5 TALENTS 4 STATERS 4 TALENTS 4 THOUSAND 5 TALENTS 3
  ONE DRACHMA 4 HALF 4 HUNDRED STATERS 5 TALENTS 4 QUARTER 4 THOUSAND STATERS 5 TALENTS 3 TEN MNAS 4
  STATERS 4 TALENTS 4 THOUSAND STATERS 2 CARYSTIAN FIVE HUNDRED 2 CYRENAIC TWO DRACHMAS 2 DELPHIC
  FIVE MNAS 2 EPIDAUREAN FIVE HUNDRED 3 TWO 4 DRACHMAS 2 HERAEUM ONE PLETHRON 2 HERMIONIAN FIFTY 3
  ONE 3 TEN 2 MESSENIAN TEN 2 NAXIAN FIVE HUNDRED 2 STRATIAN FIFTY MNAS 2 THESPIAN FIFTY 3 FIVE
  HUNDRED 4 THOUSAND 3 ONE 4 HUNDRED 4 THOUSAND 3 TEN 3 THIRTY 3 THREE HUNDRED 3 TWO 2 TROEZENIAN
  FIFTY 4 ALTERNATE FORM 3 FIVE 4 HUNDRED 3 TEN 4 ALTERNATE FORM 1 ANO TELEIA 1 AROURA SIGN 1 ARTABE
  SIGN 1 BETA SYMBOL 1 CAPITAL DOTTED LUNATE SIGMA SYMBOL 2 KAI SYMBOL 2 LETTER ALPHA 4 WITH DASIA 6
  AND OXIA 8 AND PROSGEGRAMMENI 7 PERISPOMENI 8 AND PROSGEGRAMMENI 7 PROSGEGRAMMENI 7 VARIA 8 AND
  PROSGEGRAMMENI 5 MACRON 5 OXIA 5 PROSGEGRAMMENI 5 PSILI 6 AND OXIA 8 AND PROSGEGRAMMENI 7
  PERISPOMENI 8 AND PROSGEGRAMMENI 7 PROSGEGRAMMENI 7 VARIA 8 AND PROSGEGRAMMENI 5 TONOS 5 VARIA 5
  VRACHY 3 ARCHAIC SAMPI 3 BETA 3 CHI 3 DELTA 3 EPSILON 4 WITH DASIA 6 AND OXIA 7 VARIA 5 OXIA 5
  PSILI 6 AND OXIA 7 VARIA 5 TONOS 5 VARIA 3 ETA 4 WITH DASIA 6 AND OXIA 8 AND PROSGEGRAMMENI 7
  PERISPOMENI 8 AND PROSGEGRAMMENI 7 PROSGEGRAMMENI 7 VARIA 8 AND PROSGEGRAMMENI 5 OXIA 5
  PROSGEGRAMMENI 5 PSILI 6 AND OXIA 8 AND PROSGEGRAMMENI 7 PERISPOMENI 8 AND PROSGEGRAMMENI 7
  PROSGEGRAMMENI 7 VARIA 8 AND PROSGEGRAMMENI 5 TONOS 5 VARIA 3 GAMMA 3 HETA 3 IOTA 4 WITH DASIA 6
  AND OXIA 7 PERISPOMENI 7 VARIA 5 DIALYTIKA 5 MACRON 5 OXIA 5 PSILI 6 AND OXIA 7 PERISPOMENI 7
  VARIA 5 TONOS 5 VARIA 5 VRACHY 3 KAPPA 3 LAMDA 3 MU 3 NU 3 OMEGA 4 WITH DASIA 6 AND OXIA 8 AND
  PROSGEGRAMMENI 7 PERISPOMENI 8 AND PROSGEGRAMMENI 7 PROSGEGRAMMENI 7 VARIA 8 AND PROSGEGRAMMENI 5
  OXIA 5 PROSGEGRAMMENI 5 PSILI 6 AND OXIA 8 AND PROSGEGRAMMENI 7 PERISPOMENI 8 AND PROSGEGRAMMENI 7
  PROSGEGRAMMENI 7 VARIA 8 AND PROSGEGRAMMENI 5 TONOS 5 VARIA 3 OMICRON 4 WITH DASIA 6 AND OXIA 7
  VARIA 5 OXIA 5 PSILI 6 AND OXIA 7 VARIA 5 TONOS 5 VARIA 3 PAMPHYLIAN DIGAMMA 3 PHI 3 PI 3 PSI 3
  RHO 4 WITH DASIA 3 SAN 3 SHO 3 SIGMA 3 TAU 3 THETA 3 UPSILON 4 WITH DASIA 6 AND OXIA 7 PERISPOMENI
  7 VARIA 5 DIALYTIKA 5 MACRON 5 OXIA 5 TONOS 5 VARIA 5 VRACHY 3 XI 3 YOT 3 ZETA 2 LUNATE SIGMA
  SYMBOL 2 REVERSED DOTTED LUNATE SIGMA SYMBOL 3 LUNATE SIGMA SYMBOL 2 THETA SYMBOL 1 DASIA 2 AND
  OXIA 3 PERISPOMENI 3 VARIA 1 DIALYTIKA AND OXIA 3 PERISPOMENI 3 VARIA 2 TONOS 1 DRACHMA SIGN 1
  FIVE OBOLS SIGN 1 FOUR OBOLS SIGN 1 GRAMMA SIGN 1 INDICTION SIGN 1 INSTRUMENTAL NOTATION SYMBOL-1
  3 SYMBOL-11 3 SYMBOL-12 3 SYMBOL-13 3 SYMBOL-14 3 SYMBOL-17 3 SYMBOL-18 3 SYMBOL-19 3 SYMBOL-2 3
  SYMBOL-23 3 SYMBOL-24 3 SYMBOL-25 3 SYMBOL-26 3 SYMBOL-27 3 SYMBOL-29 3 SYMBOL-30 3 SYMBOL-32 3
  SYMBOL-36 3 SYMBOL-37 3 SYMBOL-38 3 SYMBOL-39 3 SYMBOL-4 3 SYMBOL-40 3 SYMBOL-42 3 SYMBOL-43 3
  SYMBOL-45 3 SYMBOL-47 3 SYMBOL-48 3 SYMBOL-49 3 SYMBOL-5 3 SYMBOL-50 3 SYMBOL-51 3 SYMBOL-52 3
  SYMBOL-53 3 SYMBOL-54 3 SYMBOL-7 3 SYMBOL-8 1 KAI SYMBOL 1 KAPPA SYMBOL 1 KORONIS 1 KYATHOS BASE
  SIGN 1 LETTER ARCHAIC KOPPA 2 DIGAMMA 2 KOPPA 2 SAMPI 2 SMALL CAPITAL GAMMA 4 LAMDA 4 OMEGA 4 PI 4
  PSI 4 RHO 2 STIGMA 2 YOT 1 LITRA SIGN 1 LOWER NUMERAL SIGN 1 LUNATE EPSILON SYMBOL 2 SIGMA SYMBOL
  1 METRETES SIGN 1 MUSICAL LEIMMA 1 NUMERAL SIGN 1 OBOL SIGN 1 ONE HALF SIGN 4 ALTERNATE FORM 2
  QUARTER SIGN 1 OUNKIA SIGN 1 OXIA 1 PERISPOMENI 1 PHI SYMBOL 1 PI SYMBOL 1 PROSGEGRAMMENI 1 PSILI
  2 AND OXIA 3 PERISPOMENI 3 VARIA 1 QUESTION MARK 1 REVERSED LUNATE EPSILON SYMBOL 1 RHO SYMBOL 2
  WITH STROKE SYMBOL 1 SINUSOID SIGN 1 SMALL DOTTED LUNATE SIGMA SYMBOL 2 LETTER ALPHA 4 WITH DASIA
  6 AND OXIA 8 AND YPOGEGRAMMENI 7 PERISPOMENI 8 AND YPOGEGRAMMENI 7 VARIA 8 AND YPOGEGRAMMENI 7
  YPOGEGRAMMENI 5 MACRON 5 OXIA 6 AND YPOGEGRAMMENI 5 PERISPOMENI 6 AND YPOGEGRAMMENI 5 PSILI 6 AND
  OXIA 8 AND YPOGEGRAMMENI 7 PERISPOMENI 8 AND YPOGEGRAMMENI 7 VARIA 8 AND YPOGEGRAMMENI 7
  YPOGEGRAMMENI 5 TONOS 5 VARIA 6 AND YPOGEGRAMMENI 5 VRACHY 5 YPOGEGRAMMENI 3 ARCHAIC KOPPA 4 SAMPI
  3 BETA 3 CHI 3 DELTA 3 DIGAMMA 3 EPSILON 4 WITH DASIA 6 AND OXIA 7 VARIA 5 OXIA 5 PSILI 6 AND OXIA
  7 VARIA 5 TONOS 5 VARIA 3 ETA 4 WITH DASIA 6 AND OXIA 8 AND YPOGEGRAMMENI 7 PERISPOMENI 8 AND
  YPOGEGRAMMENI 7 VARIA 8 AND YPOGEGRAMMENI 7 YPOGEGRAMMENI 5 OXIA 6 AND YPOGEGRAMMENI 5 PERISPOMENI
  6 AND YPOGEGRAMMENI 5 PSILI 6 AND OXIA 8 AND YPOGEGRAMMENI 7 PERISPOMENI 8 AND YPOGEGRAMMENI 7
  VARIA 8 AND YPOGEGRAMMENI 7 YPOGEGRAMMENI 5 TONOS 5 VARIA 6 AND YPOGEGRAMMENI 5 YPOGEGRAMMENI 3
  FINAL SIGMA 3 GAMMA 3 HETA 3 IOTA 4 WITH DASIA 6 AND OXIA 7 PERISPOMENI 7 VARIA 5 DIALYTIKA 6 AND
  OXIA 7 PERISPOMENI 7 TONOS 7 VARIA 5 MACRON 5 OXIA 5 PERISPOMENI 5 PSILI 6 AND OXIA 7 PERISPOMENI
  7 VARIA 5 TONOS 5 VARIA 5 VRACHY 3 KAPPA 3 KOPPA 3 LAMDA 3 MU 3 NU 3 OMEGA 4 WITH DASIA 6 AND OXIA
  8 AND YPOGEGRAMMENI 7 PERISPOMENI 8 AND YPOGEGRAMMENI 7 VARIA 8 AND YPOGEGRAMMENI 7 YPOGEGRAMMENI
  5 OXIA 6 AND YPOGEGRAMMENI 5 PERISPOMENI 6 AND YPOGEGRAMMENI 5 PSILI 6 AND OXIA 8 AND
  YPOGEGRAMMENI 7 PERISPOMENI 8 AND YPOGEGRAMMENI 7 VARIA 8 AND YPOGEGRAMMENI 7 YPOGEGRAMMENI 5
  TONOS 5 VARIA 6 AND YPOGEGRAMMENI 5 YPOGEGRAMMENI 3 OMICRON 4 WITH DASIA 6 AND OXIA 7 VARIA 5 OXIA
  5 PSILI 6 AND OXIA 7 VARIA 5 TONOS 5 VARIA 3 PAMPHYLIAN DIGAMMA 3 PHI 3 PI 3 PSI 3 RHO 4 WITH
  DASIA 5 PSILI 3 SAMPI 3 SAN 3 SHO 3 SIGMA 3 STIGMA 3 TAU 3 THETA 3 UPSILON 4 WITH DASIA 6 AND OXIA
  7 PERISPOMENI 7 VARIA 5 DIALYTIKA 6 AND OXIA 7 PERISPOMENI 7 TONOS 7 VARIA 5 MACRON 5 OXIA 5
  PERISPOMENI 5 PSILI 6 AND OXIA 7 PERISPOMENI 7 VARIA 5 TONOS 5 VARIA 5 VRACHY 3 XI 3 ZETA 2
  REVERSED DOTTED LUNATE SIGMA SYMBOL 3 LUNATE SIGMA SYMBOL 1 SUBSCRIPT SMALL LETTER BETA 4 CHI 4
  GAMMA 4 PHI 4 RHO 1 SYMBOL TAU RHO 1 TALENT SIGN 1 THETA SYMBOL 1 THREE OBOLS SIGN 2 QUARTERS SIGN
  1 TONOS 1 TRYBLION BASE SIGN 1 TWO OBOLS SIGN 2 THIRDS SIGN 1 UPSILON WITH ACUTE AND HOOK SYMBOL 3
  DIAERESIS AND HOOK SYMBOL 3 HOOK SYMBOL 1 VARIA 1 VOCAL NOTATION SYMBOL-1 3 SYMBOL-10 3 SYMBOL-11
  3 SYMBOL-12 3 SYMBOL-13 3 SYMBOL-14 3 SYMBOL-15 3 SYMBOL-16 3 SYMBOL-17 3 SYMBOL-18 3 SYMBOL-19 3
  SYMBOL-2 3 SYMBOL-20 3 SYMBOL-21 3 SYMBOL-22 3 SYMBOL-23 3 SYMBOL-24 3 SYMBOL-3 3 SYMBOL-4 3
  SYMBOL-5 3 SYMBOL-50 3 SYMBOL-51 3 SYMBOL-52 3 SYMBOL-53 3 SYMBOL-54 3 SYMBOL-6 3 SYMBOL-7 3
  SYMBOL-8 3 SYMBOL-9 1 XESTES SIGN 1 YEAR SIGN 1 YPOGEGRAMMENI 1 ZERO SIGN 0 GREEN APPLE 1 BOOK 1
  HEART 1 SALAD 0 GRIMACING FACE 0 GRINNING CAT FACE WITH SMILING EYES 1 FACE 2 WITH ONE LARGE AND
  ONE SMALL EYE 3 SMILING EYES 3 STAR EYES 0 GROUP MARK 1 SEPARATOR 0 GROWING HEART 0 GS 0 GUARANI
  SIGN 0 GUARDSMAN 0 GUIDE DOG 0 GUITAR 0 GUJARATI ABBREVIATION SIGN 1 DIGIT EIGHT 2 FIVE 2 FOUR 2
  NINE 2 ONE 2 SEVEN 2 SIX 2 THREE 2 TWO 2 ZERO 1 LETTER A 2 AA 2 AI 2 AU 2 BA 2 BHA 2 CA 2 CHA 2 DA
  2 DDA 2 DDHA 2 DHA 2 E 2 GA 2 GHA 2 HA 2 I 2 II 2 JA 2 JHA 2 KA 2 KHA 2 LA 2 LLA 2 MA 2 NA 2 NGA 2
  NNA 2 NYA 2 O 2 PA 2 PHA 2 RA 2 SA 2 SHA 2 SSA 2 TA 2 THA 2 TTA 2 TTHA 2 U 2 UU 2 VA 2 VOCALIC L 3
  LL 3 R 3 RR 2 YA 2 ZHA 1 OM 1 RUPEE SIGN 1 SIGN ANUSVARA 2 AVAGRAHA 2 CANDRABINDU 2 CIRCLE NUKTA
  ABOVE 2 MADDAH 2 NUKTA 2 SHADDA 2 SUKUN 2 THREE-DOT NUKTA ABOVE 2 TWO-CIRCLE NUKTA ABOVE 2 VIRAMA
  2 VISARGA 1 VOWEL CANDRA E 3 O 2 SIGN AA 3 AI 3 AU 3 CANDRA E 4 O 3 E 3 I 3 II 3 O 3 U 3 UU 3
  VOCALIC L 4 LL 4 R 4 RR 0 GUNJALA GONDI DIGIT EIGHT 3 FIVE 3 FOUR 3 NINE 3 ONE 3 SEVEN 3 SIX 3
  THREE 3 TWO 3 ZERO 2 LETTER A 3 AA 3 AI 3 AU 3 BA 3 BHA 3 CA 3 CHA 3 DA 3 DDA 3 DDHA 3 DHA 3 EE 3
  GA 3 GHA 3 HA 3 I 3 II 3 JA 3 JHA 3 KA 3 KHA 3 LA 3 LLA 3 MA 3 NA 3 NGA 3 OO 3 PA 3 PHA 3 RA 3 SA
  3 TA 3 THA 3 TTA 3 TTHA 3 U 3 UU 3 VA 3 YA 2 OM 2 SIGN ANUSVARA 3 VISARGA 2 VIRAMA 2 VOWEL SIGN AA
  4 AI 4 AU 4 EE 4 I 4 II 4 OO 4 U 4 UU 0 GURMUKHI ABBREVIATION SIGN 1 ADDAK 1 DIGIT EIGHT 2 FIVE 2
  FOUR 2 NINE 2 ONE 2 SEVEN 2 SIX 2 THREE 2 TWO 2 ZERO 1 EK ONKAR 1 IRI 1 LETTER A 2 AA 2 AI 2 AU 2
  BA 2 BHA 2 CA 2 CHA 2 DA 2 DDA 2 DDHA 2 DHA 2 EE 2 FA 2 GA 2 GHA 2 GHHA 2 HA 2 I 2 II 2 JA 2 JHA 2
  KA 2 KHA 2 KHHA 2 LA 2 LLA 2 MA 2 NA 2 NGA 2 NNA 2 NYA 2 OO 2 PA 2 PHA 2 RA 2 RRA 2 SA 2 SHA 2 TA
  2 THA 2 TTA 2 TTHA 2 U 2 UU 2 VA 2 YA 2 ZA 1 SIGN ADAK BINDI 2 BINDI 2 NUKTA 2 UDAAT 2 VIRAMA 2
  VISARGA 2 YAKASH 1 TIPPI 1 URA 1 VOWEL SIGN AA 3 AI 3 AU 3 EE 3 I 3 II 3 OO 3 U 3 UU 0 HADES 0
  HAIR SPACE 0 HAIRCUT 0 HALFWIDTH BLACK SQUARE 1 DOWNWARDS ARROW 1 FORMS LIGHT VERTICAL 1 HANGUL
  FILLER 2 LETTER A 3 AE 3 CHIEUCH 3 CIEUC 3 E 3 EO 3 EU 3 HIEUH 3 I 3 IEUNG 3 KHIEUKH 3 KIYEOK 3
  KIYEOK-SIOS 3 MIEUM 3 NIEUN 3 NIEUN-CIEUC 3 NIEUN-HIEUH 3 O 3 OE 3 PHIEUPH 3 PIEUP 3 PIEUP-SIOS 3
  RIEUL 3 RIEUL-HIEUH 3 RIEUL-KIYEOK 3 RIEUL-MIEUM 3 RIEUL-PHIEUPH 3 RIEUL-PIEUP 3 RIEUL-SIOS 3
  RIEUL-THIEUTH 3 SIOS 3 SSANGCIEUC 3 SSANGKIYEOK 3 SSANGPIEUP 3 SSANGSIOS 3 SSANGTIKEUT 3 THIEUTH 3
  TIKEUT 3 U 3 WA 3 WAE 3 WE 3 WEO 3 WI 3 YA 3 YAE 3 YE 3 YEO 3 YI 3 YO 3 YU 1 IDEOGRAPHIC COMMA 2
  FULL STOP 1 KATAKANA LETTER A 3 E 3 HA 3 HE 3 HI 3 HO 3 HU 3 I 3 KA 3 KE 3 KI 3 KO 3 KU 3 MA 3 ME
  3 MI 3 MO 3 MU 3 N 3 NA 3 NE 3 NI 3 NO 3 NU 3 O 3 RA 3 RE 3 RI 3 RO 3 RU 3 SA 3 SE 3 SI 3 SMALL A
  4 E 4 I 4 O 4 TU 4 U 4 YA 4 YO 4 YU 3 SO 3 SU 3 TA 3 TE 3 TI 3 TO 3 TU 3 U 3 WA 3 WO 3 YA 3 YO 3
  YU 2 MIDDLE DOT 2 SEMI-VOICED SOUND MARK 2 VOICED SOUND MARK 1 KATAKANA-HIRAGANA PROLONGED SOUND
  MARK 1 LEFT CORNER BRACKET 1 LEFTWARDS ARROW 1 RIGHT CORNER BRACKET 1 RIGHTWARDS ARROW 1 UPWARDS
  ARROW 1 WHITE CIRCLE 0 HAMBURGER 0 HAMMER 1 AND PICK 2 SICKLE 2 WRENCH 0 HAMSA 0 HAMSTER FACE 0
  HAND WITH INDEX AND MIDDLE FINGERS CROSSED 3 FINGER AND THUMB CROSSED 0 HANDBAG 0 HANDBALL 0
  HANDSHAKE 0 HANGUL CHOSEONG CEONGCHIEUMCHIEUCH 2 CEONGCHIEUMCIEUC 2 CEONGCHIEUMSIOS 2
  CEONGCHIEUMSSANGCIEUC 2 CEONGCHIEUMSSANGSIOS 2 CHIEUCH 2 CHIEUCH-HIEUH 2 CHIEUCH-KHIEUKH 2
  CHITUEUMCHIEUCH 2 CHITUEUMCIEUC 2 CHITUEUMSIOS 2 CHITUEUMSSANGCIEUC 2 CHITUEUMSSANGSIOS 2 CIEUC 2
  CIEUC-IEUNG 2 FILLER 2 HIEUH 2 HIEUH-SIOS 2 IEUNG 2 IEUNG-CHIEUCH 2 IEUNG-CIEUC 2 IEUNG-HIEUH 2
  IEUNG-KIYEOK 2 IEUNG-MIEUM 2 IEUNG-PANSIOS 2 IEUNG-PHIEUPH 2 IEUNG-PIEUP 2 IEUNG-RIEUL 2
  IEUNG-SIOS 2 IEUNG-THIEUTH 2 IEUNG-TIKEUT 2 KAPYEOUNMIEUM 2 KAPYEOUNPHIEUPH 2 KAPYEOUNPIEUP 2
  KAPYEOUNRIEUL 2 KAPYEOUNSSANGPIEUP 2 KHIEUKH 2 KIYEOK 2 KIYEOK-TIKEUT 2 MIEUM 2 MIEUM-KIYEOK 2
  MIEUM-PIEUP 2 MIEUM-SIOS 2 MIEUM-TIKEUT 2 NIEUN 2 NIEUN-CIEUC 2 NIEUN-HIEUH 2 NIEUN-KIYEOK 2
  NIEUN-PIEUP 2 NIEUN-SIOS 2 NIEUN-TIKEUT 2 PANSIOS 2 PHIEUPH 2 PHIEUPH-HIEUH 2 PHIEUPH-PIEUP 2
  PIEUP 2 PIEUP-CHIEUCH 2 PIEUP-CIEUC 2 PIEUP-HIEUH 2 PIEUP-KHIEUKH 2 PIEUP-KIYEOK 2 PIEUP-NIEUN 2
  PIEUP-PHIEUPH 2 PIEUP-SIOS 2 PIEUP-SIOS-CIEUC 2 PIEUP-SIOS-KIYEOK 2 PIEUP-SIOS-PIEUP 2
  PIEUP-SIOS-THIEUTH 2 PIEUP-SIOS-TIKEUT 2 PIEUP-SSANGSIOS 2 PIEUP-THIEUTH 2 PIEUP-TIKEUT 2 RIEUL 2
  RIEUL-CIEUC 2 RIEUL-HIEUH 2 RIEUL-KAPYEOUNPIEUP 2 RIEUL-KHIEUKH 2 RIEUL-KIYEOK 2 RIEUL-MIEUM 2
  RIEUL-NIEUN 2 RIEUL-PIEUP 2 RIEUL-SIOS 2 RIEUL-SSANGKIYEOK 2 RIEUL-SSANGPIEUP 2 RIEUL-SSANGTIKEUT
  2 RIEUL-TIKEUT 2 SIOS 2 SIOS-CHIEUCH 2 SIOS-CIEUC 2 SIOS-HIEUH 2 SIOS-IEUNG 2 SIOS-KHIEUKH 2
  SIOS-KIYEOK 2 SIOS-MIEUM 2 SIOS-NIEUN 2 SIOS-PHIEUPH 2 SIOS-PIEUP 2 SIOS-PIEUP-KIYEOK 2 SIOS-RIEUL
  2 SIOS-SSANGSIOS 2 SIOS-THIEUTH 2 SIOS-TIKEUT 2 SSANGCIEUC 2 SSANGCIEUC-HIEUH 2 SSANGHIEUH 2
  SSANGIEUNG 2 SSANGKIYEOK 2 SSANGNIEUN 2 SSANGPIEUP 2 SSANGRIEUL 2 SSANGSIOS 2 SSANGSIOS-PIEUP 2
  SSANGTHIEUTH 2 SSANGTIKEUT 2 SSANGYEORINHIEUH 2 THIEUTH 2 TIKEUT 2 TIKEUT-CIEUC 2 TIKEUT-KIYEOK 2
  TIKEUT-MIEUM 2 TIKEUT-PIEUP 2 TIKEUT-RIEUL 2 TIKEUT-SIOS 2 YEORINHIEUH 2 YESIEUNG 1 DOUBLE DOT
  TONE MARK 1 FILLER 1 JONGSEONG CHIEUCH 2 CIEUC 2 CIEUC-PIEUP 2 CIEUC-SSANGPIEUP 2 HIEUH 2
  HIEUH-MIEUM 2 HIEUH-NIEUN 2 HIEUH-PIEUP 2 HIEUH-RIEUL 2 IEUNG 2 IEUNG-KHIEUKH 2 IEUNG-KIYEOK 2
  IEUNG-SSANGKIYEOK 2 KAPYEOUNMIEUM 2 KAPYEOUNPHIEUPH 2 KAPYEOUNPIEUP 2 KAPYEOUNRIEUL 2 KHIEUKH 2
  KIYEOK 2 KIYEOK-CHIEUCH 2 KIYEOK-HIEUH 2 KIYEOK-KHIEUKH 2 KIYEOK-NIEUN 2 KIYEOK-PIEUP 2
  KIYEOK-RIEUL 2 KIYEOK-SIOS 2 KIYEOK-SIOS-KIYEOK 2 MIEUM 2 MIEUM-CHIEUCH 2 MIEUM-CIEUC 2
  MIEUM-HIEUH 2 MIEUM-KIYEOK 2 MIEUM-NIEUN 2 MIEUM-PANSIOS 2 MIEUM-PIEUP 2 MIEUM-PIEUP-SIOS 2
  MIEUM-RIEUL 2 MIEUM-SIOS 2 MIEUM-SSANGNIEUN 2 MIEUM-SSANGSIOS 2 NIEUN 2 NIEUN-CHIEUCH 2
  NIEUN-CIEUC 2 NIEUN-HIEUH 2 NIEUN-KIYEOK 2 NIEUN-PANSIOS 2 NIEUN-RIEUL 2 NIEUN-SIOS 2
  NIEUN-THIEUTH 2 NIEUN-TIKEUT 2 PANSIOS 2 PANSIOS-KAPYEOUNPIEUP 2 PANSIOS-PIEUP 2 PHIEUPH 2
  PHIEUPH-PIEUP 2 PHIEUPH-SIOS 2 PHIEUPH-THIEUTH 2 PIEUP 2 PIEUP-CHIEUCH 2 PIEUP-CIEUC 2 PIEUP-HIEUH
  2 PIEUP-MIEUM 2 PIEUP-PHIEUPH 2 PIEUP-RIEUL 2 PIEUP-RIEUL-PHIEUPH 2 PIEUP-SIOS 2 PIEUP-SIOS-TIKEUT
  2 PIEUP-TIKEUT 2 RIEUL 2 RIEUL-HIEUH 2 RIEUL-KAPYEOUNPIEUP 2 RIEUL-KHIEUKH 2 RIEUL-KIYEOK 2
  RIEUL-KIYEOK-HIEUH 2 RIEUL-KIYEOK-SIOS 2 RIEUL-MIEUM 2 RIEUL-MIEUM-HIEUH 2 RIEUL-MIEUM-KIYEOK 2
  RIEUL-MIEUM-SIOS 2 RIEUL-NIEUN 2 RIEUL-PANSIOS 2 RIEUL-PHIEUPH 2 RIEUL-PIEUP 2 RIEUL-PIEUP-HIEUH 2
  RIEUL-PIEUP-PHIEUPH 2 RIEUL-PIEUP-SIOS 2 RIEUL-PIEUP-TIKEUT 2 RIEUL-SIOS 2 RIEUL-SSANGKIYEOK 2
  RIEUL-SSANGSIOS 2 RIEUL-THIEUTH 2 RIEUL-TIKEUT 2 RIEUL-TIKEUT-HIEUH 2 RIEUL-YEORINHIEUH 2
  RIEUL-YEORINHIEUH-HIEUH 2 RIEUL-YESIEUNG 2 SIOS 2 SIOS-CHIEUCH 2 SIOS-CIEUC 2 SIOS-HIEUH 2
  SIOS-KAPYEOUNPIEUP 2 SIOS-KIYEOK 2 SIOS-MIEUM 2 SIOS-PANSIOS 2 SIOS-PIEUP 2 SIOS-RIEUL 2
  SIOS-THIEUTH 2 SIOS-TIKEUT 2 SSANGCIEUC 2 SSANGIEUNG 2 SSANGKIYEOK 2 SSANGMIEUM 2 SSANGNIEUN 2
  SSANGPIEUP 2 SSANGRIEUL 2 SSANGRIEUL-KHIEUKH 2 SSANGSIOS 2 SSANGSIOS-KIYEOK 2 SSANGSIOS-TIKEUT 2
  SSANGTIKEUT 2 SSANGTIKEUT-PIEUP 2 SSANGYESIEUNG 2 THIEUTH 2 TIKEUT 2 TIKEUT-CHIEUCH 2 TIKEUT-CIEUC
  2 TIKEUT-KIYEOK 2 TIKEUT-PIEUP 2 TIKEUT-RIEUL 2 TIKEUT-SIOS 2 TIKEUT-SIOS-KIYEOK 2 TIKEUT-THIEUTH
  2 YEORINHIEUH 2 YESIEUNG 2 YESIEUNG-HIEUH 2 YESIEUNG-KHIEUKH 2 YESIEUNG-KIYEOK 2 YESIEUNG-MIEUM 2
  YESIEUNG-PANSIOS 2 YESIEUNG-SIOS 2 YESIEUNG-SSANGKIYEOK 1 JUNGSEONG A 2 A-EU 2 A-O 2 A-U 2 AE 2
  ARAEA 2 ARAEA-A 2 ARAEA-E 2 ARAEA-EO 2 ARAEA-I 2 ARAEA-U 2 E 2 EO 2 EO-EU 2 EO-O 2 EO-U 2 EU 2
  EU-A 2 EU-E 2 EU-EO 2 EU-EU 2 EU-O 2 EU-U 2 FILLER 2 I 2 I-A 2 I-ARAEA 2 I-EU 2 I-I 2 I-O 2 I-O-I
  2 I-U 2 I-YA 2 I-YA-O 2 I-YAE 2 I-YE 2 I-YEO 2 I-YO 2 I-YU 2 O 2 O-E 2 O-EO 2 O-O 2 O-O-I 2 O-U 2
  O-YA 2 O-YAE 2 O-YE 2 O-YEO 2 OE 2 SSANGARAEA 2 U 2 U-A 2 U-AE 2 U-EO-EU 2 U-I-I 2 U-U 2 U-YE 2
  U-YEO 2 WA 2 WAE 2 WE 2 WEO 2 WI 2 YA 2 YA-O 2 YA-U 2 YA-YO 2 YAE 2 YE 2 YEO 2 YEO-O 2 YEO-U 2
  YEO-YA 2 YI 2 YI-U 2 YO 2 YO-A 2 YO-AE 2 YO-EO 2 YO-I 2 YO-O 2 YO-YA 2 YO-YAE 2 YO-YEO 2 YU 2 YU-A
  2 YU-AE 2 YU-E 2 YU-EO 2 YU-I 2 YU-O 2 YU-U 2 YU-YE 2 YU-YEO 1 LETTER A 2 AE 2 ARAEA 2 ARAEAE 2
  CHIEUCH 2 CIEUC 2 E 2 EO 2 EU 2 HIEUH 2 I 2 IEUNG 2 KAPYEOUNMIEUM 2 KAPYEOUNPHIEUPH 2
  KAPYEOUNPIEUP 2 KAPYEOUNSSANGPIEUP 2 KHIEUKH 2 KIYEOK 2 KIYEOK-SIOS 2 MIEUM 2 MIEUM-PANSIOS 2
  MIEUM-PIEUP 2 MIEUM-SIOS 2 NIEUN 2 NIEUN-CIEUC 2 NIEUN-HIEUH 2 NIEUN-PANSIOS 2 NIEUN-SIOS 2
  NIEUN-TIKEUT 2 O 2 OE 2 PANSIOS 2 PHIEUPH 2 PIEUP 2 PIEUP-CIEUC 2 PIEUP-KIYEOK 2 PIEUP-SIOS 2
  PIEUP-SIOS-KIYEOK 2 PIEUP-SIOS-TIKEUT 2 PIEUP-THIEUTH 2 PIEUP-TIKEUT 2 RIEUL 2 RIEUL-HIEUH 2
  RIEUL-KIYEOK 2 RIEUL-KIYEOK-SIOS 2 RIEUL-MIEUM 2 RIEUL-PANSIOS 2 RIEUL-PHIEUPH 2 RIEUL-PIEUP 2
  RIEUL-PIEUP-SIOS 2 RIEUL-SIOS 2 RIEUL-THIEUTH 2 RIEUL-TIKEUT 2 RIEUL-YEORINHIEUH 2 SIOS 2
  SIOS-CIEUC 2 SIOS-KIYEOK 2 SIOS-NIEUN 2 SIOS-PIEUP 2 SIOS-TIKEUT 2 SSANGCIEUC 2 SSANGHIEUH 2
  SSANGIEUNG 2 SSANGKIYEOK 2 SSANGNIEUN 2 SSANGPIEUP 2 SSANGSIOS 2 SSANGTIKEUT 2 THIEUTH 2 TIKEUT 2
  U 2 WA 2 WAE 2 WE 2 WEO 2 WI 2 YA 2 YAE 2 YE 2 YEO 2 YEORINHIEUH 2 YESIEUNG 2 YESIEUNG-PANSIOS 2
  YESIEUNG-SIOS 2 YI 2 YO 2 YO-I 2 YO-YA 2 YO-YAE 2 YU 2 YU-I 2 YU-YE 2 YU-YEO 1 SINGLE DOT TONE
  MARK 0 HANGZHOU NUMERAL EIGHT 2 FIVE 2 FOUR 2 NINE 2 ONE 2 SEVEN 2 SIX 2 TEN 2 THIRTY 2 THREE 2
  TWENTY 2 TWO 0 HANIFI ROHINGYA DIGIT EIGHT 3 FIVE 3 FOUR 3 NINE 3 ONE 3 SEVEN 3 SIX 3 THREE 3 TWO
  3 ZERO 2 LETTER A 3 BA 3 CA 3 DA 3 DDA 3 FA 3 GA 3 HA 3 JA 3 KA 3 KHA 3 KINNA WA 4 YA 3 LA 3 MA 3
  NA 3 NGA 3 NYA 3 PA 3 RA 3 RRA 3 SA 3 SHA 3 TA 3 TTA 3 VA 3 WA 3 YA 3 ZA 2 MARK NA KHONNA 3 SAKIN
  2 SIGN HARBAHAY 3 TAHALA 3 TANA 3 TASSI 2 VOWEL A 3 E 3 I 3 O 3 U 0 HANUNOO LETTER A 2 BA 2 DA 2
  GA 2 HA 2 I 2 KA 2 LA 2 MA 2 NA 2 NGA 2 PA 2 RA 2 SA 2 TA 2 U 2 WA 2 YA 1 SIGN PAMUDPOD 1 VOWEL
  SIGN I 3 U 0 HAPPY PERSON RAISING ONE HAND 0 HARD DISK 0 HATCHING CHICK 0 HATRAN LETTER ALEPH 2
  AYN 2 BETH 2 DALETH-RESH 2 GIMEL 2 HE 2 HETH 2 KAPH 2 LAMEDH 2 MEM 2 NUN 2 PE 2 QOPH 2 SADHE 2
  SAMEKH 2 SHIN 2 TAW 2 TETH 2 WAW 2 YODH 2 ZAYN 1 NUMBER FIVE 2 ONE 3 HUNDRED 2 TEN 2 TWENTY 0
  HEADPHONE 0 HEADSTONE 1 GRAVEYARD SYMBOL 0 HEAR-NO-EVIL MONKEY 0 HEART DECORATION 1 HANDS 1 WITH
  ARROW 2 RIBBON 2 TIP ON THE LEFT 0 HEAVY AMPERSAND ORNAMENT 1 ARROW SHAFT WIDTH ONE 5 HALF 5 THIRD
  4 TWO THIRDS 1 ASTERISK 1 BALLOT X 1 BLACK CURVED DOWNWARDS AND RIGHTWARDS ARROW 3 UPWARDS AND
  RIGHTWARDS ARROW 2 HEART 1 BLACK-FEATHERED NORTH EAST ARROW 2 RIGHTWARDS ARROW 2 SOUTH EAST ARROW
  1 CHECK MARK 1 CHEVRON SNOWFLAKE 1 CIRCLE 2 WITH CIRCLE INSIDE 3 STROKE AND TWO DOTS ABOVE 1
  CIRCLED SALTIRE 1 CONCAVE-POINTED BLACK RIGHTWARDS ARROW 1 DASHED TRIANGLE-HEADED RIGHTWARDS ARROW
  1 DIVISION SIGN 1 DOLLAR SIGN 1 DOUBLE COMMA QUOTATION MARK ORNAMENT 2 TURNED COMMA QUOTATION MARK
  ORNAMENT 1 DOWNWARDS ARROW WITH EQUILATERAL ARROWHEAD 4 LARGE EQUILATERAL ARROWHEAD 1 EIGHT
  POINTED BLACK STAR 3 PINWHEEL STAR 3 RECTILINEAR BLACK STAR 2 SPOKED ASTERISK 2 TEARDROP-SPOKED
  PROPELLER ASTERISK 1 EQUALS SIGN 1 EXCLAMATION MARK ORNAMENT 3 SYMBOL 1 FIVE POINTED BLACK STAR 2
  SPOKED ASTERISK 1 FOUR BALLOON-SPOKED ASTERISK 1 GREEK CROSS 1 HEART EXCLAMATION MARK ORNAMENT 1
  HORIZONTAL FILL 1 INTERROBANG ORNAMENT 1 LARGE CIRCLE 1 LATIN CROSS 1 LEFT-POINTING ANGLE BRACKET
  ORNAMENT 3 QUOTATION MARK ORNAMENT 1 LEFTWARDS ARROW WITH EQUILATERAL ARROWHEAD 4 LARGE
  EQUILATERAL ARROWHEAD 1 LIGATURE OPEN ET ORNAMENT 1 LOW DOUBLE COMMA QUOTATION MARK ORNAMENT 2
  SINGLE COMMA QUOTATION MARK ORNAMENT 1 LOWER RIGHT-SHADOWED WHITE RIGHTWARDS ARROW 1 MINUS SIGN 1
  MULTIPLICATION X 1 NORTH EAST ARROW 3 POINTING BUD 4 VINE LEAF 2 WEST POINTING BUD 4 VINE LEAF 1
  OPEN CENTRE CROSS 1 OUTLINED BLACK STAR 1 OVAL WITH OVAL INSIDE 1 PLUS SIGN 1 RIGHT-POINTING ANGLE
  BRACKET ORNAMENT 3 QUOTATION MARK ORNAMENT 1 RIGHTWARDS ARROW 3 WITH EQUILATERAL ARROWHEAD 4 LARGE
  EQUILATERAL ARROWHEAD 1 ROUND-TIPPED RIGHTWARDS ARROW 1 SALTIRE 1 SANS-SERIF INTERROBANG ORNAMENT
  1 SCRIPT LIGATURE ET ORNAMENT 1 SINGLE COMMA QUOTATION MARK ORNAMENT 2 TURNED COMMA QUOTATION MARK
  ORNAMENT 1 SIX POINTED BLACK STAR 2 SPOKED ASTERISK 1 SOUTH EAST ARROW 3 POINTING BUD 4 VINE LEAF
  2 WEST POINTING BUD 4 VINE LEAF 1 SPARKLE 1 TEARDROP-SHANKED RIGHTWARDS ARROW 1 TEARDROP-SPOKED
  ASTERISK 2 PINWHEEL ASTERISK 1 TRIANGLE-HEADED RIGHTWARDS ARROW 1 TWELVE POINTED BLACK STAR 3
  PINWHEEL STAR 1 UPPER RIGHT-SHADOWED WHITE RIGHTWARDS ARROW 1 UPWARDS ARROW WITH EQUILATERAL
  ARROWHEAD 4 LARGE EQUILATERAL ARROWHEAD 1 VERTICAL BAR 1 WEDGE-TAILED RIGHTWARDS ARROW 1 WHITE
  CIRCLE 2 DOWN-POINTING TRIANGLE 2 SQUARE 1 WIDE-HEADED RIGHTWARDS ARROW 0 HEBREW ACCENT ATNAH
  HAFUKH 2 DARGA 2 DEHI 2 ETNAHTA 2 GERESH 3 MUQDAM 2 GERSHAYIM 2 ILUY 2 MAHAPAKH 2 MERKHA 3 KEFULA
  2 MUNAH 2 OLE 2 PASHTA 2 PAZER 2 QADMA 2 QARNEY PARA 2 REVIA 2 SEGOL 2 SHALSHELET 2 TELISHA GEDOLA
  3 QETANA 2 TEVIR 2 TIPEHA 2 YERAH BEN YOMO 2 YETIV 2 ZAQEF GADOL 3 QATAN 2 ZARQA 2 ZINOR 1 LETTER
  ALEF 3 WITH MAPIQ 4 PATAH 4 QAMATS 2 ALTERNATIVE AYIN 3 PLUS SIGN 2 AYIN 2 BET 3 WITH DAGESH 4
  RAFE 2 DALET 3 WITH DAGESH 2 FINAL KAF 4 WITH DAGESH 3 MEM 3 NUN 3 PE 4 WITH DAGESH 3 TSADI 2
  GIMEL 3 WITH DAGESH 2 HE 3 WITH MAPIQ 2 HET 2 KAF 3 WITH DAGESH 4 RAFE 2 LAMED 3 WITH DAGESH 2 MEM
  3 WITH DAGESH 2 NUN 3 WITH DAGESH 2 PE 3 WITH DAGESH 4 RAFE 2 QOF 3 WITH DAGESH 2 RESH 3 WITH
  DAGESH 2 SAMEKH 3 WITH DAGESH 2 SHIN 3 WITH DAGESH 5 AND SHIN DOT 6 SIN DOT 4 SHIN DOT 4 SIN DOT 2
  TAV 3 WITH DAGESH 2 TET 3 WITH DAGESH 2 TSADI 3 WITH DAGESH 2 VAV 3 WITH DAGESH 4 HOLAM 2 WIDE
  ALEF 3 DALET 3 FINAL MEM 3 HE 3 KAF 3 LAMED 3 RESH 3 TAV 2 YOD 3 WITH DAGESH 4 HIRIQ 2 ZAYIN 3
  WITH DAGESH 1 LIGATURE ALEF LAMED 2 YIDDISH DOUBLE VAV 4 YOD 3 VAV YOD 3 YOD YOD PATAH 1 MARK
  LOWER DOT 2 MASORA CIRCLE 2 UPPER DOT 1 POINT DAGESH OR MAPIQ 2 HATAF PATAH 3 QAMATS 3 SEGOL 2
  HIRIQ 2 HOLAM 3 HASER FOR VAV 2 JUDEO-SPANISH VARIKA 2 METEG 2 PATAH 2 QAMATS 3 QATAN 2 QUBUTS 2
  RAFE 2 SEGOL 2 SHEVA 2 SHIN DOT 2 SIN DOT 2 TSERE 1 PUNCTUATION GERESH 2 GERSHAYIM 2 MAQAF 2 NUN
  HAFUKHA 2 PASEQ 2 SOF PASUQ 1 YOD TRIANGLE 0 HEDGEHOG 0 HELICOPTER 0 HELLSCHREIBER PAUSE SYMBOL 0
  HELM SYMBOL 0 HELMET WITH WHITE CROSS 0 HENTAIGANA LETTER A-1 2 A-2 2 A-3 2 A-WO 2 E-1 2 E-2 2 E-3
  2 E-4 2 E-5 2 E-6 2 HA-1 2 HA-10 2 HA-11 2 HA-2 2 HA-3 2 HA-4 2 HA-5 2 HA-6 2 HA-7 2 HA-8 2 HA-9 2
  HE-1 2 HE-2 2 HE-3 2 HE-4 2 HE-5 2 HE-6 2 HE-7 2 HI-1 2 HI-2 2 HI-3 2 HI-4 2 HI-5 2 HI-6 2 HI-7 2
  HO-1 2 HO-2 2 HO-3 2 HO-4 2 HO-5 2 HO-6 2 HO-7 2 HO-8 2 HU-1 2 HU-2 2 HU-3 2 I-1 2 I-2 2 I-3 2 I-4
  2 KA-1 2 KA-10 2 KA-11 2 KA-2 2 KA-3 2 KA-4 2 KA-5 2 KA-6 2 KA-7 2 KA-8 2 KA-9 2 KA-KE 2 KE-1 2
  KE-2 2 KE-3 2 KE-4 2 KE-5 2 KE-6 2 KI-1 2 KI-2 2 KI-3 2 KI-4 2 KI-5 2 KI-6 2 KI-7 2 KI-8 2 KO-1 2
  KO-2 2 KO-3 2 KO-KI 2 KU-1 2 KU-2 2 KU-3 2 KU-4 2 KU-5 2 KU-6 2 KU-7 2 MA-1 2 MA-2 2 MA-3 2 MA-4 2
  MA-5 2 MA-6 2 MA-7 2 ME-1 2 ME-2 2 ME-MA 2 MI-1 2 MI-2 2 MI-3 2 MI-4 2 MI-5 2 MI-6 2 MI-7 2 MO-1 2
  MO-2 2 MO-3 2 MO-4 2 MO-5 2 MO-6 2 MU-1 2 MU-2 2 MU-3 2 MU-4 2 N-MU-MO-1 2 N-MU-MO-2 2 NA-1 2 NA-2
  2 NA-3 2 NA-4 2 NA-5 2 NA-6 2 NA-7 2 NA-8 2 NA-9 2 NE-1 2 NE-2 2 NE-3 2 NE-4 2 NE-5 2 NE-6 2 NE-KO
  2 NI-1 2 NI-2 2 NI-3 2 NI-4 2 NI-5 2 NI-6 2 NI-7 2 NI-TE 2 NO-1 2 NO-2 2 NO-3 2 NO-4 2 NO-5 2 NU-1
  2 NU-2 2 NU-3 2 O-1 2 O-2 2 O-3 2 RA-1 2 RA-2 2 RA-3 2 RA-4 2 RE-1 2 RE-2 2 RE-3 2 RE-4 2 RI-1 2
  RI-2 2 RI-3 2 RI-4 2 RI-5 2 RI-6 2 RI-7 2 RO-1 2 RO-2 2 RO-3 2 RO-4 2 RO-5 2 RO-6 2 RU-1 2 RU-2 2
  RU-3 2 RU-4 2 RU-5 2 RU-6 2 SA-1 2 SA-2 2 SA-3 2 SA-4 2 SA-5 2 SA-6 2 SA-7 2 SA-8 2 SE-1 2 SE-2 2
  SE-3 2 SE-4 2 SE-5 2 SI-1 2 SI-2 2 SI-3 2 SI-4 2 SI-5 2 SI-6 2 SO-1 2 SO-2 2 SO-3 2 SO-4 2 SO-5 2
  SO-6 2 SO-7 2 SU-1 2 SU-2 2 SU-3 2 SU-4 2 SU-5 2 SU-6 2 SU-7 2 SU-8 2 TA-1 2 TA-2 2 TA-3 2 TA-4 2
  TE-1 2 TE-2 2 TE-3 2 TE-4 2 TE-5 2 TE-6 2 TE-7 2 TE-8 2 TE-9 2 TI-1 2 TI-2 2 TI-3 2 TI-4 2 TI-5 2
  TI-6 2 TI-7 2 TO-1 2 TO-2 2 TO-3 2 TO-4 2 TO-5 2 TO-6 2 TO-RA 2 TU-1 2 TU-2 2 TU-3 2 TU-4 2 TU-TO
  2 U-1 2 U-2 2 U-3 2 U-4 2 U-5 2 WA-1 2 WA-2 2 WA-3 2 WA-4 2 WA-5 2 WE-1 2 WE-2 2 WE-3 2 WE-4 2
  WI-1 2 WI-2 2 WI-3 2 WI-4 2 WI-5 2 WO-1 2 WO-2 2 WO-3 2 WO-4 2 WO-5 2 WO-6 2 WO-7 2 YA-1 2 YA-2 2
  YA-3 2 YA-4 2 YA-5 2 YA-YO 2 YO-1 2 YO-2 2 YO-3 2 YO-4 2 YO-5 2 YO-6 2 YU-1 2 YU-2 2 YU-3 2 YU-4 0
  HERB 0 HERMITIAN CONJUGATE MATRIX 0 HEXAGRAM FOR ABUNDANCE 2 AFTER COMPLETION 2 APPROACH 2 BEFORE
  COMPLETION 2 BITING THROUGH 2 BREAKTHROUGH 2 COMING TO MEET 2 CONFLICT 2 CONTEMPLATION 2 DARKENING
  OF THE LIGHT 2 DECREASE 2 DELIVERANCE 2 DEVELOPMENT 2 DIFFICULTY AT THE BEGINNING 2 DISPERSION 2
  DURATION 2 ENTHUSIASM 2 FELLOWSHIP 2 FOLLOWING 2 GATHERING TOGETHER 2 GRACE 2 GREAT POSSESSION 3
  POWER 3 PREPONDERANCE 3 TAMING 2 HOLDING TOGETHER 2 INCREASE 2 INFLUENCE 2 INNER TRUTH 2 INNOCENCE
  2 LIMITATION 2 MODESTY 2 MOUTH CORNERS 2 OBSTRUCTION 2 OPPOSITION 2 OPPRESSION 2 PEACE 2 PROGRESS
  2 PUSHING UPWARD 2 RETREAT 2 RETURN 2 REVOLUTION 2 SMALL PREPONDERANCE 3 TAMING 2 SPLITTING APART
  2 STANDSTILL 2 THE ABYSMAL WATER 3 ARMY 3 AROUSING THUNDER 3 CAULDRON 3 CLINGING FIRE 3 CREATIVE
  HEAVEN 3 FAMILY 3 GENTLE WIND 3 JOYOUS LAKE 3 KEEPING STILL MOUNTAIN 3 MARRYING MAIDEN 3 RECEPTIVE
  EARTH 3 WANDERER 3 WELL 2 TREADING 2 WAITING 2 WORK ON THE DECAYED 2 YOUTHFUL FOLLY 0 HIBISCUS 0
  HIGH BRIGHTNESS SYMBOL 1 OCTET PRESET 1 VOLTAGE SIGN 0 HIGH-HEELED SHOE 0 HIGH-SPEED TRAIN 2 WITH
  BULLET NOSE 0 HIKING BOOT 0 HINDU TEMPLE 0 HIPPOPOTAMUS 0 HIRAGANA DIGRAPH YORI 1 ITERATION MARK 1
  LETTER A 2 ARCHAIC WU 3 YE 2 BA 2 BE 2 BI 2 BO 2 BU 2 DA 2 DE 2 DI 2 DO 2 DU 2 E 2 GA 2 GE 2 GI 2
  GO 2 GU 2 HA 2 HE 2 HI 2 HO 2 HU 2 I 2 KA 2 KE 2 KI 2 KO 2 KU 2 MA 2 ME 2 MI 2 MO 2 MU 2 N 2 NA 2
  NE 2 NI 2 NO 2 NU 2 O 2 PA 2 PE 2 PI 2 PO 2 PU 2 RA 2 RE 2 RI 2 RO 2 RU 2 SA 2 SE 2 SI 2 SMALL A 3
  E 3 I 3 KA 3 KE 3 O 3 TU 3 U 3 WA 3 WE 3 WI 3 WO 3 YA 3 YO 3 YU 2 SO 2 SU 2 TA 2 TE 2 TI 2 TO 2 TU
  2 U 2 VU 2 WA 2 WE 2 WI 2 WO 2 YA 2 YO 2 YU 2 ZA 2 ZE 2 ZI 2 ZO 2 ZU 1 VOICED ITERATION MARK 0
  HISTORIC SITE 0 HOCHO 0 HOLE 0 HOLLOW QUILT SQUARE ORNAMENT 4 IN BLACK SQUARE 0 HOMOTHETIC 0 HONEY
  POT 0 HONEYBEE 0 HOOK 0 HOP 0 HORIZONTAL BAR 1 BLACK HEXAGON 2 OCTAGON 1 ELLIPSIS 1 LINE EXTENSION
  1 MALE WITH STROKE SIGN 1 ONE EIGHTH BLOCK-1358 3 BLOCK-2 3 BLOCK-3 3 BLOCK-4 3 BLOCK-5 3 BLOCK-6
  3 BLOCK-7 1 SCAN LINE-1 2 LINE-3 2 LINE-7 2 LINE-9 1 TAB KEY 1 TABULATION 2 SET 2 WITH
  JUSTIFICATION 1 TRAFFIC LIGHT 0 HORSE 1 FACE 1 RACING 0 HOSPITAL 0 HOT BEVERAGE 1 DOG 1 PEPPER 1
  SPRINGS 0 HOTEL 0 HOURGLASS 1 WITH FLOWING SAND 0 HOUSE 1 BUILDING 1 BUILDINGS 1 WITH GARDEN 0
  HRYVNIA SIGN 0 HT 0 HTJ 0 HTS 0 HUGGING FACE 0 HUNDRED POINTS SYMBOL 0 HUSHED FACE 0 HUT 0 HYGIEA
  0 HYPHEN 1 BULLET 1 WITH DIAERESIS 0 HYPHEN-MINUS 0 HYPHENATION POINT 0 HYPODIASTOLE 0 HYSTERESIS
  SYMBOL 0 I LOVE YOU HAND SIGN 0 ICE CREAM 1 CUBE 1 HOCKEY STICK AND PUCK 1 SKATE 0 IDENTICAL TO 2
  AND SLANTED PARALLEL 1 WITH DOT ABOVE 0 IDENTIFICATION CARD 0 IDEOGRAPHIC ANNOTATION BOTTOM MARK 2
  EARTH MARK 2 FIRST MARK 2 FOUR MARK 2 FOURTH MARK 2 HEAVEN MARK 2 LINKING MARK 2 MAN MARK 2 MIDDLE
  MARK 2 ONE MARK 2 REVERSE MARK 2 SECOND MARK 2 THIRD MARK 2 THREE MARK 2 TOP MARK 2 TWO MARK 1
  CLOSING MARK 1 COMMA 1 DEPARTING TONE MARK 1 DESCRIPTION CHARACTER ABOVE TO BELOW 5 MIDDLE AND
  BELOW 3 FULL SURROUND 3 LEFT TO MIDDLE AND RIGHT 5 RIGHT 3 OVERLAID 3 SURROUND FROM ABOVE 5 BELOW
  5 LEFT 5 LOWER LEFT 5 UPPER LEFT 6 RIGHT 1 ENTERING TONE MARK 1 FULL STOP 1 HALF FILL SPACE 1
  ITERATION MARK 1 LEVEL TONE MARK 1 NUMBER ZERO 1 RISING TONE MARK 1 SPACE 1 TALLY MARK FIVE 3 FOUR
  3 ONE 3 THREE 3 TWO 1 TELEGRAPH LINE FEED SEPARATOR SYMBOL 2 SYMBOL FOR APRIL 4 AUGUST 4 DAY EIGHT
  5 EIGHTEEN 5 ELEVEN 5 FIFTEEN 5 FIVE 5 FOUR 5 FOURTEEN 5 NINE 5 NINETEEN 5 ONE 5 SEVEN 5 SEVENTEEN
  5 SIX 5 SIXTEEN 5 TEN 5 THIRTEEN 5 THIRTY 5 THIRTY-ONE 5 THREE 5 TWELVE 5 TWENTY 5 TWENTY-EIGHT 5
  TWENTY-FIVE 5 TWENTY-FOUR 5 TWENTY-NINE 5 TWENTY-ONE 5 TWENTY-SEVEN 5 TWENTY-SIX 5 TWENTY-THREE 5
  TWENTY-TWO 5 TWO 4 DECEMBER 4 FEBRUARY 4 HOUR EIGHT 5 EIGHTEEN 5 ELEVEN 5 FIFTEEN 5 FIVE 5 FOUR 5
  FOURTEEN 5 NINE 5 NINETEEN 5 ONE 5 SEVEN 5 SEVENTEEN 5 SIX 5 SIXTEEN 5 TEN 5 THIRTEEN 5 THREE 5
  TWELVE 5 TWENTY 5 TWENTY-FOUR 5 TWENTY-ONE 5 TWENTY-THREE 5 TWENTY-TWO 5 TWO 5 ZERO 4 JANUARY 4
  JULY 4 JUNE 4 MARCH 4 MAY 4 NOVEMBER 4 OCTOBER 4 SEPTEMBER 1 VARIATION INDICATOR 0 IMAGE OF 2 OR
  APPROXIMATELY EQUAL TO 0 IMP 0 IMPERIAL ARAMAIC LETTER ALEPH 3 AYIN 3 BETH 3 DALETH 3 GIMEL 3 HE 3
  HETH 3 KAPH 3 LAMEDH 3 MEM 3 NUN 3 PE 3 QOPH 3 RESH 3 SADHE 3 SAMEKH 3 SHIN 3 TAW 3 TETH 3 WAW 3
  YODH 3 ZAYIN 2 NUMBER ONE 4 HUNDRED 4 THOUSAND 3 TEN 4 THOUSAND 3 THREE 3 TWENTY 3 TWO 2 SECTION
  SIGN 0 INBOX TRAY 0 INCOMING ENVELOPE 0 INCOMPLETE INFINITY 0 INCREASE FONT SIZE SYMBOL 0
  INCREASES AS 0 INCREMENT 0 IND 0 INDEX 1 POINTING AT THE VIEWER 0 INDIAN RUPEE SIGN 0 INDIC SIYAQ
  ALTERNATE LAKH MARK 2 FRACTION ONE HALF 4 QUARTER 3 THREE QUARTERS 2 LAKH MARK 2 NUMBER ALTERNATE
  ONE 4 TEN THOUSAND 4 TWO 3 EIGHT 4 HUNDRED 4 THOUSAND 3 EIGHTY 4 THOUSAND 3 FIFTY 4 THOUSAND 3
  FIVE 4 HUNDRED 4 THOUSAND 3 FORTY 4 THOUSAND 3 FOUR 4 HUNDRED 4 THOUSAND 3 KAROR 3 KARORAN 3 LAKH
  3 LAKHAN 3 NINE 4 HUNDRED 4 THOUSAND 3 NINETY 4 THOUSAND 3 ONE 4 HUNDRED 4 THOUSAND 3 PREFIXED
  EIGHT 4 FIVE 4 FOUR 4 NINE 4 ONE 4 SEVEN 4 SIX 4 THREE 4 TWO 3 SEVEN 4 HUNDRED 4 THOUSAND 3
  SEVENTY 4 THOUSAND 3 SIX 4 HUNDRED 4 THOUSAND 3 SIXTY 4 THOUSAND 3 TEN 4 THOUSAND 3 THIRTY 4
  THOUSAND 3 THREE 4 HUNDRED 4 THOUSAND 3 TWENTY 4 THOUSAND 3 TWO 4 HUNDRED 4 THOUSAND 2 PLACEHOLDER
  2 RUPEE MARK 0 INFINITY 1 NEGATED WITH VERTICAL BAR 0 INFORMATION DESK PERSON 1 SEPARATOR FOUR 2
  ONE 2 THREE 2 TWO 1 SOURCE 0 INHIBIT ARABIC FORM SHAPING 1 SYMMETRIC SWAPPING 0 INPUT SYMBOL FOR
  LATIN CAPITAL LETTERS 4 LETTERS 4 SMALL LETTERS 3 NUMBERS 3 SYMBOLS 0 INSCRIPTIONAL PAHLAVI LETTER
  ALEPH 3 BETH 3 DALETH 3 GIMEL 3 HE 3 HETH 3 KAPH 3 LAMEDH 3 MEM-QOPH 3 NUN 3 PE 3 SADHE 3 SAMEKH 3
  SHIN 3 TAW 3 TETH 3 WAW-AYIN-RESH 3 YODH 3 ZAYIN 2 NUMBER FOUR 3 ONE 4 HUNDRED 4 THOUSAND 3 TEN 3
  THREE 3 TWENTY 3 TWO 1 PARTHIAN LETTER ALEPH 3 AYIN 3 BETH 3 DALETH 3 GIMEL 3 HE 3 HETH 3 KAPH 3
  LAMEDH 3 MEM 3 NUN 3 PE 3 QOPH 3 RESH 3 SADHE 3 SAMEKH 3 SHIN 3 TAW 3 TETH 3 WAW 3 YODH 3 ZAYIN 2
  NUMBER FOUR 3 ONE 4 HUNDRED 4 THOUSAND 3 TEN 3 THREE 3 TWENTY 3 TWO 0 INSERTION SYMBOL 0 INTEGRAL
  1 AROUND A POINT OPERATOR 1 AVERAGE WITH SLASH 1 EXTENSION 1 WITH DOUBLE STROKE 2 INTERSECTION 2
  LEFTWARDS ARROW WITH HOOK 2 OVERBAR 2 TIMES SIGN 2 UNDERBAR 2 UNION 0 INTERCALATE 0 INTERIOR
  PRODUCT 0 INTERLINEAR ANNOTATION ANCHOR 2 SEPARATOR 2 TERMINATOR 0 INTERLOCKED FEMALE AND MALE
  SIGN 0 INTERROBANG 0 INTERSECTION 1 ABOVE BAR ABOVE UNION 2 UNION 1 BESIDE AND JOINED WITH
  INTERSECTION 1 WITH DOT 2 LOGICAL AND 2 OVERBAR 0 INVERSE BULLET 1 CHECK MARK 1 CHECKER BOARD FILL
  1 DOWNWARDS ARROW WITH TIP LEFTWARDS 1 MEDIUM SHADE 1 WHITE CIRCLE 0 INVERTED EXCLAMATION MARK 1
  INTERROBANG 1 LAZY S 1 LOW KAVYKA 3 WITH KAVYKA ABOVE 1 OHM SIGN 1 PENTAGRAM 1 QUESTION MARK 1
  UNDERTIE 0 INVISIBLE PLUS 1 SEPARATOR 1 TIMES 0 IZAKAYA LANTERN 0 JACK-O-LANTERN 0 JAPANESE BANK
  SYMBOL 1 CASTLE 1 DOLLS 1 GOBLIN 1 INDUSTRIAL STANDARD SYMBOL 1 OGRE 1 POST OFFICE 1 SYMBOL FOR
  BEGINNER 0 JAR 0 JAVANESE CONSONANT SIGN CAKRA 3 KERET 3 PENGKAL 1 DIGIT EIGHT 2 FIVE 2 FOUR 2
  NINE 2 ONE 2 SEVEN 2 SIX 2 THREE 2 TWO 2 ZERO 1 LEFT RERENGGAN 1 LETTER A 2 AI 2 BA 3 MURDA 2 CA 3
  MURDA 2 DA 3 MAHAPRANA 2 DDA 3 MAHAPRANA 2 E 2 GA 3 MURDA 2 HA 2 I 3 KAWI 2 II 2 JA 3 MAHAPRANA 2
  KA 3 MURDA 3 SASAK 2 LA 2 MA 2 NA 3 MURDA 2 NGA 3 LELET 4 RASWADI 2 NYA 3 MURDA 2 O 2 PA 3 CEREK 3
  MURDA 2 RA 3 AGUNG 2 SA 3 MAHAPRANA 3 MURDA 2 TA 3 MURDA 2 TTA 3 MAHAPRANA 2 U 2 WA 2 YA 1 PADA
  ADEG 3 ADEG 2 ANDAP 2 ISEN-ISEN 2 LINGSA 2 LUHUR 2 LUNGSI 2 MADYA 2 PANGKAT 2 PISELEH 2 TIRTA
  TUMETES 2 WINDU 1 PANGKON 1 PANGRANGKEP 1 RIGHT RERENGGAN 1 SIGN CECAK 3 TELU 2 LAYAR 2 PANYANGGA
  2 WIGNYAN 1 TURNED PADA PISELEH 1 VOWEL SIGN DIRGA MURE 3 PEPET 3 SUKU 4 MENDUT 3 TALING 3 TARUNG
  3 TOLONG 3 WULU 4 MELIK 0 JEANS 0 JIGSAW PUZZLE PIECE 0 JOIN 0 JOYSTICK 0 JUGGLING 0 JUNO 0
  JUPITER 0 KAABA 0 KAITHI ABBREVIATION SIGN 1 DANDA 1 DOUBLE DANDA 2 SECTION MARK 1 ENUMERATION
  SIGN 1 LETTER A 2 AA 2 AI 2 AU 2 BA 2 BHA 2 CA 2 CHA 2 DA 2 DDA 2 DDDHA 2 DDHA 2 DHA 2 E 2 GA 2
  GHA 2 HA 2 I 2 II 2 JA 2 JHA 2 KA 2 KHA 2 LA 2 MA 2 NA 2 NGA 2 NNA 2 NYA 2 O 2 PA 2 PHA 2 RA 2 RHA
  2 SA 2 SHA 2 SSA 2 TA 2 THA 2 TTA 2 TTHA 2 U 2 UU 2 VA 2 YA 1 NUMBER SIGN 3 ABOVE 1 SECTION MARK 1
  SIGN ANUSVARA 2 CANDRABINDU 2 NUKTA 2 VIRAMA 2 VISARGA 1 VOWEL SIGN AA 3 AI 3 AU 3 E 3 I 3 II 3 O
  3 U 3 UU 3 VOCALIC R 0 KANGAROO 0 KANGXI RADICAL AGAIN 2 AND 2 ARRIVE 2 ARROW 2 AXE 2 BADGER 2
  BAMBOO 2 BEAN 2 BIG 2 BIRD 2 BITTER 2 BLACK 2 BLOOD 2 BLUE 2 BOAT 2 BODY 2 BOLT OF CLOTH 2 BONE 2
  BOW 2 BRANCH 2 BRISTLE 2 BRUSH 2 CART 2 CAULDRON 2 CAVE 2 CHILD 2 CITY 2 CLAN 2 CLAW 2 CLIFF 2
  CLOTHES 2 COLOR 2 COMPARE 2 CORPSE 2 COVER 2 COW 2 DEATH 2 DEER 2 DIPPER 2 DISH 2 DISTINGUISH 2
  DIVINATION 2 DO NOT 2 DOG 2 DOOR 2 DOT 2 DOTTED CLIFF 3 TENT 2 DOUBLE X 2 DOWN BOX 2 DRAGON 2 DRUM
  2 DRY 2 EAR 2 EARTH 2 EAT 2 EIGHT 2 EMBROIDERY 2 ENCLOSURE 2 ENTER 2 EVEN 2 EVENING 2 EYE 2 FACE 2
  FANG 2 FATHER 2 FEATHER 2 FIELD 2 FIGHT 2 FIRE 2 FISH 2 FLUTE 2 FLY 2 FOOT 2 FRAGRANT 2 FROG 2 FUR
  2 GATE 2 GHOST 2 GO 3 SLOWLY 2 GOLD 2 GRAIN 2 GRASS 2 HAIR 2 HALBERD 2 HALF TREE TRUNK 2 HAND 2
  HEAD 2 HEART 2 HEMP 2 HIDING ENCLOSURE 2 HOOK 2 HORN 2 HORSE 2 ICE 2 INCH 2 INSECT 2 JADE 2 JAR 2
  KNIFE 2 LACK 2 LAME 2 LEAF 2 LEATHER 2 LEEK 2 LEGS 2 LID 2 LIFE 2 LINE 2 LONG 3 STRIDE 2 MAN 2
  MEAT 2 MELON 2 MILLET 2 MINISTER 2 MOON 2 MORNING 2 MORTAR 2 MOUND 2 MOUNTAIN 2 MOUTH 2 NET 2 NOSE
  2 NOT 2 OLD 2 ONE 2 ONESELF 2 OPEN BOX 2 OPPOSE 2 PIG 2 PLOW 2 POWER 2 PRIVATE 2 PROFOUND 2 RAIN 2
  RAP 2 RAT 2 RED 2 RICE 2 RIGHT OPEN BOX 2 RIVER 2 ROOF 2 RUN 2 SACRIFICIAL WINE 2 SALT 2 SAY 2
  SCHOLAR 2 SCRIPT 2 SEAL 2 SECOND 2 SEE 2 SELF 2 SHEEP 2 SHELL 2 SHOOT 2 SHORT TAILED BIRD 3 THREAD
  2 SICKNESS 2 SILK 2 SKIN 2 SLASH 2 SLAVE 2 SLICE 2 SMALL 2 SNOUT 2 SOUND 2 SPEAR 2 SPEECH 2 SPIRIT
  2 SPOON 2 SPROUT 2 SQUARE 2 STAND 2 STEAM 2 STEP 2 STONE 2 STOP 2 STOPPING 2 SUN 2 SWEET 2 TABLE 2
  TALL 2 TANNED LEATHER 2 TEN 2 TIGER 2 TILE 2 TONGUE 2 TOOTH 2 TRACK 2 TREE 2 TRIPOD 2 TURBAN 2
  TURTLE 2 TWO 3 HANDS 2 USE 2 VALLEY 2 VILLAGE 2 WALK 3 ENCLOSURE 2 WATER 2 WEAPON 2 WEST 2 WHEAT 2
  WHITE 2 WIND 2 WINE 2 WOMAN 2 WORK 2 WRAP 2 WRONG 2 YELLOW 0 KANNADA AI LENGTH MARK 1 DIGIT EIGHT
  2 FIVE 2 FOUR 2 NINE 2 ONE 2 SEVEN 2 SIX 2 THREE 2 TWO 2 ZERO 1 LENGTH MARK 1 LETTER A 2 AA 2 AI 2
  AU 2 BA 2 BHA 2 CA 2 CHA 2 DA 2 DDA 2 DDHA 2 DHA 2 E 2 EE 2 FA 2 GA 2 GHA 2 HA 2 I 2 II 2 JA 2 JHA
  2 KA 2 KHA 2 LA 2 LLA 2 LLLA 2 MA 2 NA 2 NAKAARA POLLU 2 NGA 2 NNA 2 NYA 2 O 2 OO 2 PA 2 PHA 2 RA
  2 RRA 2 SA 2 SHA 2 SSA 2 TA 2 THA 2 TTA 2 TTHA 2 U 2 UU 2 VA 2 VOCALIC L 3 LL 3 R 3 RR 2 YA 1 SIGN
  ANUSVARA 2 AVAGRAHA 2 CANDRABINDU 2 JIHVAMULIYA 2 NUKTA 2 SIDDHAM 2 SPACING CANDRABINDU 2
  UPADHMANIYA 2 VIRAMA 2 VISARGA 1 VOWEL SIGN AA 3 AI 3 AU 3 E 3 EE 3 I 3 II 3 O 3 OO 3 U 3 UU 3
  VOCALIC L 4 LL 4 R 4 RR 0 KATAKANA DIGRAPH KOTO 1 ITERATION MARK 1 LETTER A 2 ARCHAIC E 3 WU 3 YE
  3 YI 2 BA 2 BE 2 BI 2 BO 2 BU 2 DA 2 DE 2 DI 2 DO 2 DU 2 E 2 GA 2 GE 2 GI 2 GO 2 GU 2 HA 2 HE 2 HI
  2 HO 2 HU 2 I 2 KA 2 KE 2 KI 2 KO 2 KU 2 MA 2 ME 2 MI 2 MINNAN NASALIZED TONE-1 4 TONE-2 4 TONE-3
  4 TONE-4 4 TONE-5 4 TONE-7 4 TONE-8 3 TONE-2 3 TONE-3 3 TONE-4 3 TONE-5 3 TONE-7 3 TONE-8 2 MO 2
  MU 2 N 2 NA 2 NE 2 NI 2 NO 2 NU 2 O 2 PA 2 PE 2 PI 2 PO 2 PU 2 RA 2 RE 2 RI 2 RO 2 RU 2 SA 2 SE 2
  SI 2 SMALL A 3 E 3 HA 3 HE 3 HI 3 HO 3 HU 3 I 3 KA 3 KE 3 KU 3 MU 3 N 3 NU 3 O 3 RA 3 RE 3 RI 3 RO
  3 RU 3 SI 3 SU 3 TO 3 TU 3 U 3 WA 3 WE 3 WI 3 WO 3 YA 3 YO 3 YU 2 SO 2 SU 2 TA 2 TE 2 TI 2 TO 2 TU
  2 U 2 VA 2 VE 2 VI 2 VO 2 VU 2 WA 2 WE 2 WI 2 WO 2 YA 2 YO 2 YU 2 ZA 2 ZE 2 ZI 2 ZO 2 ZU 1 MIDDLE
  DOT 1 VOICED ITERATION MARK 0 KATAKANA-HIRAGANA DOUBLE HYPHEN 1 PROLONGED SOUND MARK 1 SEMI-VOICED
  SOUND MARK 1 VOICED SOUND MARK 0 KAYAH LI DIGIT EIGHT 3 FIVE 3 FOUR 3 NINE 3 ONE 3 SEVEN 3 SIX 3
  THREE 3 TWO 3 ZERO 2 LETTER A 3 BA 3 CA 3 DA 3 GA 3 HA 3 HTA 3 I 3 KA 3 KHA 3 LA 3 MA 3 NA 3 NGA 3
  NYA 3 OE 3 OO 3 PA 3 PHA 3 RA 3 SA 3 SHA 3 TA 3 THA 3 VA 3 WA 3 YA 3 ZA 2 SIGN CWI 3 SHYA 2 TONE
  CALYA 4 PLOPHU 3 PLOPHU 2 VOWEL E 3 EE 3 O 3 U 3 UE 0 KELVIN SIGN 0 KEY 0 KEYBOARD 1 AND MOUSE 0
  KEYCAP TEN 0 KHAROSHTHI DIGIT FOUR 2 ONE 2 THREE 2 TWO 1 FRACTION ONE HALF 1 LETTER A 2 BA 2 BHA 2
  CA 2 CHA 2 DA 2 DDA 2 DDHA 2 DHA 2 GA 2 GHA 2 HA 2 JA 2 KA 2 KHA 2 KKA 2 LA 2 MA 2 NA 2 NNA 2 NYA
  2 PA 2 PHA 2 RA 2 SA 2 SHA 2 SSA 2 TA 2 THA 2 TTA 2 TTHA 2 TTTA 2 TTTHA 2 VA 2 VHA 2 YA 2 ZA 1
  NUMBER ONE HUNDRED 3 THOUSAND 2 TEN 2 TWENTY 1 PUNCTUATION CIRCLE 2 CRESCENT BAR 2 DANDA 2 DOT 2
  DOUBLE DANDA 2 LINES 2 LOTUS 2 MANGALAM 2 SMALL CIRCLE 1 SIGN ANUSVARA 2 BAR ABOVE 2 CAUDA 2 DOT
  BELOW 2 DOUBLE RING BELOW 2 VISARGA 1 VIRAMA 1 VOWEL LENGTH MARK 2 SIGN E 3 I 3 O 3 U 3 VOCALIC R
  0 KHITAN SMALL SCRIPT FILLER 0 KHMER CURRENCY SYMBOL RIEL 1 DIGIT EIGHT 2 FIVE 2 FOUR 2 NINE 2 ONE
  2 SEVEN 2 SIX 2 THREE 2 TWO 2 ZERO 1 INDEPENDENT VOWEL LY 3 LYY 3 QAA 3 QAI 3 QAQ 3 QAU 3 QE 3 QI
  3 QII 3 QOO TYPE ONE 5 TWO 3 QU 3 QUK 3 QUU 3 QUUV 3 RY 3 RYY 1 LETTER BA 2 CA 2 CHA 2 CHO 2 CO 2
  DA 2 DO 2 HA 2 KA 2 KHA 2 KHO 2 KO 2 LA 2 LO 2 MO 2 NGO 2 NNO 2 NO 2 NYO 2 PHA 2 PHO 2 PO 2 QA 2
  RO 2 SA 2 SHA 2 SSO 2 TA 2 THA 2 THO 2 TO 2 TTHA 2 TTHO 2 VO 2 YO 1 SIGN AHSDA 2 ATTHACAN 2
  AVAKRAHASANYA 2 BANTOC 2 BARIYOOSAN 2 BATHAMASAT 2 BEYYAL 2 CAMNUC PII KUUH 2 COENG 2 KAKABAT 2
  KHAN 2 KOOMUUT 2 LEK TOO 2 MUUSIKATOAN 2 NIKAHIT 2 PHNAEK MUAN 2 REAHMUK 2 ROBAT 2 SAMYOK SANNYA 2
  TOANDAKHIAT 2 TRIISAP 2 VIRIAM 2 YUUKALEAPINTU 1 SYMBOL BEI KOET 3 ROC 2 BUON KOET 3 ROC 2 DAP
  KOET 3 ROC 2 DAP-BEI KOET 3 ROC 2 DAP-BUON KOET 3 ROC 2 DAP-MUOY KOET 3 ROC 2 DAP-PII KOET 3 ROC 2
  DAP-PRAM KOET 3 ROC 2 LEK ATTAK BEI 4 BUON 4 MUOY 4 PII 4 PRAM 4 PRAM-BEI 4 PRAM-BUON 4 PRAM-MUOY
  4 PRAM-PII 4 SON 2 MUOY KOET 3 ROC 2 PATHAMASAT 2 PII KOET 3 ROC 2 PRAM KOET 3 ROC 2 PRAM-BEI KOET
  3 ROC 2 PRAM-BUON KOET 3 ROC 2 PRAM-MUOY KOET 3 ROC 2 PRAM-PII KOET 3 ROC 2 TUTEYASAT 1 VOWEL
  INHERENT AA 3 AQ 2 SIGN AA 3 AE 3 AI 3 AU 3 E 3 I 3 IE 3 II 3 OE 3 OO 3 U 3 UA 3 UU 3 Y 3 YA 3 YY
  0 KHOJKI ABBREVIATION SIGN 1 DANDA 1 DOUBLE DANDA 2 SECTION MARK 1 LETTER A 2 AA 2 AI 2 AU 2 BA 2
  BBA 2 BHA 2 CA 2 CHA 2 DA 2 DDA 2 DDDA 2 DDHA 2 DHA 2 E 2 GA 2 GGA 2 GHA 2 HA 2 I 2 JA 2 JJA 2 KA
  2 KHA 2 LA 2 LLA 2 MA 2 NA 2 NGA 2 NNA 2 NYA 2 O 2 PA 2 PHA 2 RA 2 SA 2 TA 2 THA 2 TTA 2 TTHA 2 U
  2 VA 2 YA 1 SECTION MARK 1 SIGN ANUSVARA 2 NUKTA 2 SHADDA 2 SUKUN 2 VIRAMA 1 VOWEL SIGN AA 3 AI 3
  AU 3 E 3 I 3 II 3 O 3 U 1 WORD SEPARATOR 0 KHUDAWADI DIGIT EIGHT 2 FIVE 2 FOUR 2 NINE 2 ONE 2
  SEVEN 2 SIX 2 THREE 2 TWO 2 ZERO 1 LETTER A 2 AA 2 AI 2 AU 2 BA 2 BBA 2 BHA 2 CA 2 CHA 2 DA 2 DDA
  2 DDDA 2 DDHA 2 DHA 2 E 2 GA 2 GGA 2 GHA 2 HA 2 I 2 II 2 JA 2 JHA 2 JJA 2 KA 2 KHA 2 LA 2 MA 2 NA
  2 NGA 2 NNA 2 NYA 2 O 2 PA 2 PHA 2 RA 2 RRA 2 SA 2 SHA 2 TA 2 THA 2 TTA 2 TTHA 2 U 2 UU 2 VA 2 YA
  1 SIGN ANUSVARA 2 NUKTA 2 VIRAMA 1 VOWEL SIGN AA 3 AI 3 AU 3 E 3 I 3 II 3 O 3 U 3 UU 0 KIMONO 0
  KIP SIGN 0 KISS 1 MARK 0 KISSING CAT FACE WITH CLOSED EYES 1 FACE 2 WITH CLOSED EYES 3 SMILING
  EYES 0 KITE 0 KIWIFRUIT 0 KNEELING PERSON 0 KNOT 0 KOALA 0 KOREAN STANDARD SYMBOL 0 KRONOS 0 L B
  BAR SYMBOL 0 LAB COAT 0 LABEL 0 LACROSSE STICK AND BALL 0 LADDER 0 LADY BEETLE 0 LANGUAGE TAG 0
  LAO CANCELLATION MARK 1 DIGIT EIGHT 2 FIVE 2 FOUR 2 NINE 2 ONE 2 SEVEN 2 SIX 2 THREE 2 TWO 2 ZERO
  1 ELLIPSIS 1 HO MO 2 NO 1 KO LA 1 LETTER BO 2 CO 2 DO 2 FO FAY 3 FON 3 SUNG 3 TAM 2 HO SUNG 3 TAM
  2 KHMU GO 3 NYO 2 KHO SUNG 3 TAM 2 KO 2 LO 3 LING 3 LOOT 2 MO 2 NGO 2 NO 2 NYO 2 O 2 PALI BHA 3
  CHA 3 DDA 3 DDHA 3 DHA 3 GHA 3 JHA 3 LLA 3 NNA 3 NYA 3 TTA 3 TTHA 2 PHO SUNG 3 TAM 2 PO 2 RO 2
  SANSKRIT SHA 3 SSA 2 SO SUNG 3 TAM 2 THO SUNG 3 TAM 2 TO 2 WO 2 YO 1 NIGGAHITA 1 SEMIVOWEL SIGN LO
  3 NYO 1 SIGN PALI VIRAMA 1 TONE MAI CATAWA 3 EK 3 THO 3 TI 1 VOWEL SIGN A 3 AA 3 AI 3 AM 3 AY 3 E
  3 EI 3 I 3 II 3 MAI KAN 4 KON 3 O 3 U 3 UU 3 Y 3 YY 0 LARGE BLUE CIRCLE 2 DIAMOND 2 SQUARE 1 BROWN
  CIRCLE 2 SQUARE 1 CIRCLE 1 DOWN TACK 1 GREEN CIRCLE 2 SQUARE 1 LEFT TRIANGLE OPERATOR 1 ONE DOT
  OVER TWO DOTS PUNCTUATION 2 RING OVER TWO RINGS PUNCTUATION 1 ORANGE CIRCLE 2 DIAMOND 2 SQUARE 1
  PURPLE CIRCLE 2 SQUARE 1 RED CIRCLE 2 SQUARE 1 TRIPLE VERTICAL BAR OPERATOR 1 TWO DOTS OVER ONE
  DOT PUNCTUATION 2 RINGS OVER ONE RING PUNCTUATION 1 UP TACK 1 YELLOW CIRCLE 2 SQUARE 0 LARGER THAN
  2 OR EQUAL TO 0 LARI SIGN 0 LAST QUARTER MOON 3 SYMBOL 3 WITH FACE 0 LATIN CAPITAL LETTER A 4 WITH
  ACUTE 5 BREVE 6 AND ACUTE 7 DOT BELOW 7 GRAVE 7 HOOK ABOVE 7 TILDE 5 CARON 5 CIRCUMFLEX 6 AND
  ACUTE 7 DOT BELOW 7 GRAVE 7 HOOK ABOVE 7 TILDE 5 DIAERESIS 6 AND MACRON 5 DOT ABOVE 7 AND MACRON 6
  BELOW 5 DOUBLE GRAVE 5 GRAVE 5 HOOK ABOVE 5 INVERTED BREVE 5 MACRON 5 OGONEK 5 RING ABOVE 7 AND
  ACUTE 6 BELOW 5 STROKE 5 TILDE 3 AA 3 AE 4 WITH ACUTE 5 MACRON 3 AFRICAN D 3 ALPHA 3 ANGLICANA W 3
  AO 3 AU 3 AV 4 WITH HORIZONTAL BAR 3 AY 3 B 4 WITH DOT ABOVE 6 BELOW 5 FLOURISH 5 HOOK 5 LINE
  BELOW 5 STROKE 5 TOPBAR 3 BETA 3 BROKEN L 3 C 4 WITH ACUTE 5 BAR 5 CARON 5 CEDILLA 6 AND ACUTE 5
  CIRCUMFLEX 5 DOT ABOVE 5 HOOK 5 PALATAL HOOK 5 STROKE 3 CHI 3 CLOSED INSULAR G 3 CON 3 CUATRILLO 4
  WITH COMMA 3 D 4 WITH CARON 5 CEDILLA 5 CIRCUMFLEX BELOW 5 DOT ABOVE 6 BELOW 5 HOOK 5 LINE BELOW 5
  SHORT STROKE OVERLAY 5 SMALL LETTER Z 8 WITH CARON 5 STROKE 5 TOPBAR 3 DZ 4 WITH CARON 3 E 4 WITH
  ACUTE 5 BREVE 5 CARON 5 CEDILLA 6 AND BREVE 5 CIRCUMFLEX 6 AND ACUTE 7 DOT BELOW 7 GRAVE 7 HOOK
  ABOVE 7 TILDE 6 BELOW 5 DIAERESIS 5 DOT ABOVE 6 BELOW 5 DOUBLE GRAVE 5 GRAVE 5 HOOK ABOVE 5
  INVERTED BREVE 5 MACRON 6 AND ACUTE 7 GRAVE 5 OGONEK 5 STROKE 5 TILDE 6 BELOW 3 EGYPTOLOGICAL AIN
  4 ALEF 3 ENG 3 ESH 3 ET 3 ETH 3 EZH 4 REVERSED 4 WITH CARON 3 F 4 WITH DOT ABOVE 5 HOOK 5 STROKE 3
  G 4 WITH ACUTE 5 BREVE 5 CARON 5 CEDILLA 5 CIRCUMFLEX 5 DOT ABOVE 5 HOOK 5 MACRON 5 OBLIQUE STROKE
  5 STROKE 3 GAMMA 3 GHA 3 GLOTTAL A 4 I 4 STOP 4 U 3 H 4 WITH BREVE BELOW 5 CARON 5 CEDILLA 5
  CIRCUMFLEX 5 DESCENDER 5 DIAERESIS 5 DOT ABOVE 6 BELOW 5 HOOK 5 STROKE 3 HALF H 3 HENG 3 HWAIR 3 I
  4 WITH ACUTE 5 BREVE 5 CARON 5 CIRCUMFLEX 5 DIAERESIS 6 AND ACUTE 5 DOT ABOVE 6 BELOW 5 DOUBLE
  GRAVE 5 GRAVE 5 HOOK ABOVE 5 INVERTED BREVE 5 MACRON 5 OGONEK 5 STROKE 5 TILDE 6 BELOW 3 INSULAR D
  4 F 4 G 4 R 4 S 4 T 3 IOTA 3 IS 3 J 4 WITH CIRCUMFLEX 5 CROSSED-TAIL 5 STROKE 3 K 4 WITH ACUTE 5
  CARON 5 CEDILLA 5 DESCENDER 5 DIAGONAL STROKE 5 DOT BELOW 5 HOOK 5 LINE BELOW 5 OBLIQUE STROKE 5
  STROKE 6 AND DIAGONAL STROKE 3 L 4 WITH ACUTE 5 BAR 5 BELT 5 CARON 5 CEDILLA 5 CIRCUMFLEX BELOW 5
  DOT BELOW 7 AND MACRON 5 DOUBLE BAR 5 HIGH STROKE 5 LINE BELOW 5 MIDDLE DOT 6 TILDE 5 SMALL LETTER
  J 5 STROKE 3 LJ 3 M 4 WITH ACUTE 5 DOT ABOVE 6 BELOW 5 HOOK 3 MIDDLE SCOTS S 3 MIDDLE-WELSH LL 4 V
  3 N 4 WITH ACUTE 5 CARON 5 CEDILLA 5 CIRCUMFLEX BELOW 5 DESCENDER 5 DOT ABOVE 6 BELOW 5 GRAVE 5
  LEFT HOOK 5 LINE BELOW 5 LONG RIGHT LEG 5 OBLIQUE STROKE 5 SMALL LETTER J 5 TILDE 3 NJ 3 O 4 WITH
  ACUTE 5 BREVE 5 CARON 5 CIRCUMFLEX 6 AND ACUTE 7 DOT BELOW 7 GRAVE 7 HOOK ABOVE 7 TILDE 5
  DIAERESIS 6 AND MACRON 5 DOT ABOVE 7 AND MACRON 6 BELOW 5 DOUBLE ACUTE 6 GRAVE 5 GRAVE 5 HOOK
  ABOVE 5 HORN 6 AND ACUTE 7 DOT BELOW 7 GRAVE 7 HOOK ABOVE 7 TILDE 5 INVERTED BREVE 5 LONG STROKE
  OVERLAY 5 LOOP 5 MACRON 6 AND ACUTE 7 GRAVE 5 MIDDLE TILDE 5 OGONEK 6 AND MACRON 5 STROKE 6 AND
  ACUTE 5 TILDE 6 AND ACUTE 7 DIAERESIS 7 MACRON 3 OI 3 OLD POLISH O 3 OMEGA 3 OO 3 OPEN E 4 O 3 OU
  3 P 4 WITH ACUTE 5 DOT ABOVE 5 FLOURISH 5 HOOK 5 SQUIRREL TAIL 5 STROKE 6 THROUGH DESCENDER 3 Q 4
  WITH DIAGONAL STROKE 5 STROKE THROUGH DESCENDER 3 R 4 ROTUNDA 4 WITH ACUTE 5 CARON 5 CEDILLA 5 DOT
  ABOVE 6 BELOW 7 AND MACRON 5 DOUBLE GRAVE 5 INVERTED BREVE 5 LINE BELOW 5 OBLIQUE STROKE 5 STROKE
  5 TAIL 3 REVERSED C WITH DOT 4 E 4 HALF H 4 OPEN E 3 RUM ROTUNDA 3 S 4 WITH ACUTE 6 AND DOT ABOVE
  5 CARON 6 AND DOT ABOVE 5 CEDILLA 5 CIRCUMFLEX 5 COMMA BELOW 5 DOT ABOVE 6 BELOW 7 AND DOT ABOVE 5
  HOOK 5 OBLIQUE STROKE 5 SHORT STROKE OVERLAY 5 SWASH TAIL 3 SALTILLO 3 SCHWA 3 SCRIPT G 3 SHARP S
  3 SIGMOID S 3 SMALL CAPITAL I 4 Q WITH HOOK TAIL 3 T 4 WITH CARON 5 CEDILLA 5 CIRCUMFLEX BELOW 5
  COMMA BELOW 5 DIAGONAL STROKE 5 DOT ABOVE 6 BELOW 5 HOOK 5 LINE BELOW 5 RETROFLEX HOOK 5 STROKE 3
  THORN 4 WITH STROKE 6 THROUGH DESCENDER 3 TONE FIVE 4 SIX 4 TWO 3 TRESILLO 3 TURNED A 4 ALPHA 4 H
  4 INSULAR G 4 K 4 L 4 M 4 T 4 V 3 TZ 3 U 4 BAR 4 WITH ACUTE 5 BREVE 5 CARON 5 CIRCUMFLEX 6 BELOW 5
  DIAERESIS 6 AND ACUTE 7 CARON 7 GRAVE 7 MACRON 6 BELOW 5 DOT BELOW 5 DOUBLE ACUTE 6 GRAVE 5 GRAVE
  5 HOOK ABOVE 5 HORN 6 AND ACUTE 7 DOT BELOW 7 GRAVE 7 HOOK ABOVE 7 TILDE 5 INVERTED BREVE 5 MACRON
  6 AND DIAERESIS 5 OGONEK 5 RING ABOVE 5 STROKE 5 TILDE 6 AND ACUTE 6 BELOW 3 UPSILON 3 V 4 WITH
  DIAGONAL STROKE 5 DOT BELOW 5 HOOK 5 TILDE 3 VEND 3 VISIGOTHIC Z 3 VOLAPUK AE 4 OE 4 UE 3 VY 3 W 4
  WITH ACUTE 5 CIRCUMFLEX 5 DIAERESIS 5 DOT ABOVE 6 BELOW 5 GRAVE 5 HOOK 3 WYNN 3 X 4 WITH DIAERESIS
  5 DOT ABOVE 3 Y 4 WITH ACUTE 5 CIRCUMFLEX 5 DIAERESIS 5 DOT ABOVE 6 BELOW 5 GRAVE 5 HOOK 6 ABOVE 5
  LOOP 5 MACRON 5 STROKE 5 TILDE 3 YOGH 3 Z 4 WITH ACUTE 5 CARON 5 CIRCUMFLEX 5 DESCENDER 5 DOT
  ABOVE 6 BELOW 5 HOOK 5 LINE BELOW 5 PALATAL HOOK 5 STROKE 5 SWASH TAIL 2 LIGATURE IJ 3 OE 1 CROSS
  1 EPIGRAPHIC LETTER ARCHAIC M 3 I LONGA 3 INVERTED M 3 REVERSED F 4 P 3 SIDEWAYS I 1 LETTER AIN 2
  ALVEOLAR CLICK 2 BIDENTAL PERCUSSIVE 2 BILABIAL CLICK 3 PERCUSSIVE 2 DENTAL CLICK 2 GLOTTAL STOP 4
  WITH STROKE 2 INVERTED GLOTTAL STOP 5 WITH CURL 6 STROKE 2 LATERAL CLICK 2 PHARYNGEAL VOICED
  FRICATIVE 2 RETROFLEX CLICK 4 WITH RETROFLEX HOOK 2 REVERSED ESH LOOP 3 GLOTTAL STOP WITH STROKE 2
  SINOLOGICAL DOT 2 SMALL CAPITAL A 4 AE 4 B 4 BARRED B 4 C 4 D 4 E 4 ETH 4 EZH 4 F 4 G 5 WITH HOOK
  4 H 4 I 4 INVERTED R 4 J 4 K 4 L 5 WITH BELT 6 STROKE 4 M 4 N 4 O 4 OE 4 OPEN O 4 OU 4 P 4 Q 4 R 5
  WITH RIGHT LEG 4 REVERSED N 5 R 4 RUM 4 S 4 T 4 TURNED E 5 G 5 K 5 M 5 R 4 U 4 V 4 W 4 Y 4 Z 2
  STRETCHED C 4 WITH CURL 2 TWO WITH STROKE 2 VOICED LARYNGEAL SPIRANT 2 WYNN 2 YR 1 SMALL CAPITAL
  LETTER I WITH STROKE 4 U WITH STROKE 2 LETTER A 4 REVERSED-SCHWA 4 WITH ACUTE 5 BREVE 6 AND ACUTE
  7 DOT BELOW 7 GRAVE 7 HOOK ABOVE 7 TILDE 5 CARON 5 CIRCUMFLEX 6 AND ACUTE 7 DOT BELOW 7 GRAVE 7
  HOOK ABOVE 7 TILDE 5 DIAERESIS 6 AND MACRON 5 DOT ABOVE 7 AND MACRON 6 BELOW 5 DOUBLE GRAVE 5
  GRAVE 5 HOOK ABOVE 5 INVERTED BREVE 5 MACRON 5 OGONEK 5 RETROFLEX HOOK 5 RIGHT HALF RING 5 RING
  ABOVE 7 AND ACUTE 6 BELOW 5 STROKE 5 TILDE 3 AA 3 AE 4 WITH ACUTE 5 MACRON 3 ALPHA 4 WITH
  RETROFLEX HOOK 3 ANGLICANA W 3 AO 3 AU 3 AV 4 WITH HORIZONTAL BAR 3 AY 3 B 4 WITH DOT ABOVE 6
  BELOW 5 FLOURISH 5 HOOK 5 LINE BELOW 5 MIDDLE TILDE 5 PALATAL HOOK 5 STROKE 5 TOPBAR 3 BARRED
  ALPHA 4 E 4 O 3 BASELINE ESH 3 BETA 3 BLACKLETTER E 4 O 5 WITH STROKE 3 BOTTOM HALF O 3 BROKEN L 3
  C 4 WITH ACUTE 5 BAR 5 CARON 5 CEDILLA 6 AND ACUTE 5 CIRCUMFLEX 5 CURL 5 DOT ABOVE 5 HOOK 5
  PALATAL HOOK 5 RETROFLEX HOOK 5 STROKE 3 CHI 4 WITH LOW LEFT SERIF 6 RIGHT RING 3 CLOSED INSULAR G
  4 OMEGA 4 OPEN E 4 REVERSED OPEN E 3 CON 3 CUATRILLO 4 WITH COMMA 3 D 4 WITH CARON 5 CEDILLA 5
  CIRCUMFLEX BELOW 5 CURL 5 DOT ABOVE 6 BELOW 5 HOOK 6 AND TAIL 5 LINE BELOW 5 MIDDLE TILDE 5
  PALATAL HOOK 5 SHORT STROKE OVERLAY 5 STROKE 5 TAIL 5 TOPBAR 3 DB DIGRAPH 3 DELTA 3 DEZH DIGRAPH 5
  WITH PALATAL HOOK 6 RETROFLEX HOOK 3 DOTLESS I 4 J 5 WITH STROKE 7 AND HOOK 3 DOUBLE R 5 WITH
  CROSSED-TAIL 4 THORN 4 WYNN 3 DUM 3 DZ 4 DIGRAPH 5 WITH CURL 6 RETROFLEX HOOK 4 WITH CARON 3 E 4
  WITH ACUTE 5 BREVE 5 CARON 5 CEDILLA 6 AND BREVE 5 CIRCUMFLEX 6 AND ACUTE 7 DOT BELOW 7 GRAVE 7
  HOOK ABOVE 7 TILDE 6 BELOW 5 DIAERESIS 5 DOT ABOVE 6 BELOW 5 DOUBLE GRAVE 5 FLOURISH 5 GRAVE 5
  HOOK ABOVE 5 INVERTED BREVE 5 MACRON 6 AND ACUTE 7 GRAVE 5 NOTCH 5 OGONEK 5 RETROFLEX HOOK 5
  STROKE 5 TILDE 6 BELOW 3 EGYPTOLOGICAL AIN 4 ALEF 3 ENG 4 WITH CROSSED-TAIL 5 PALATAL HOOK 3 ESH 4
  WITH CURL 5 DOUBLE BAR 7 AND CURL 5 PALATAL HOOK 5 RETROFLEX HOOK 3 ET 3 ETH 3 EZH 4 REVERSED 4
  WITH CARON 5 CURL 5 PALATAL HOOK 5 RETROFLEX HOOK 5 TAIL 3 F 4 WITH DOT ABOVE 5 HOOK 5 MIDDLE
  TILDE 5 PALATAL HOOK 5 STROKE 3 FENG DIGRAPH 5 WITH TRILL 3 G 4 WITH ACUTE 5 BREVE 5 CARON 5
  CEDILLA 5 CIRCUMFLEX 5 DOT ABOVE 5 HOOK 5 MACRON 5 OBLIQUE STROKE 5 PALATAL HOOK 5 STROKE 3 GAMMA
  3 GHA 3 GLOTTAL A 4 I 4 STOP 4 U 3 H 4 WITH BREVE BELOW 5 CARON 5 CEDILLA 5 CIRCUMFLEX 5 DESCENDER
  5 DIAERESIS 5 DOT ABOVE 6 BELOW 5 HOOK 5 LINE BELOW 5 PALATAL HOOK 5 STROKE 3 HALF H 3 HENG 4 WITH
  HOOK 3 HV 3 I 4 WITH ACUTE 5 BREVE 5 CARON 5 CIRCUMFLEX 5 DIAERESIS 6 AND ACUTE 5 DOT BELOW 5
  DOUBLE GRAVE 5 GRAVE 5 HOOK ABOVE 5 INVERTED BREVE 5 MACRON 5 OGONEK 5 RETROFLEX HOOK 5 STROKE 6
  AND RETROFLEX HOOK 5 TILDE 6 BELOW 3 INSULAR D 4 F 4 G 4 R 4 S 4 T 3 INVERTED ALPHA 4 OE 3 IOTA 4
  WITH STROKE 3 IOTIFIED E 3 IS 3 J 4 WITH CARON 5 CIRCUMFLEX 5 CROSSED-TAIL 5 STROKE 3 K 4 WITH
  ACUTE 5 CARON 5 CEDILLA 5 DESCENDER 5 DIAGONAL STROKE 5 DOT BELOW 5 HOOK 5 LINE BELOW 5 OBLIQUE
  STROKE 5 PALATAL HOOK 5 STROKE 6 AND DIAGONAL STROKE 3 KRA 3 L 4 WITH ACUTE 5 BAR 5 BELT 6 AND
  PALATAL HOOK 5 CARON 5 CEDILLA 5 CIRCUMFLEX BELOW 5 CURL 5 DOT BELOW 7 AND MACRON 5 DOUBLE BAR 6
  MIDDLE TILDE 5 FISHHOOK 5 HIGH STROKE 5 INVERTED LAZY S 5 LINE BELOW 5 MIDDLE DOT 6 RING 6 TILDE 5
  PALATAL HOOK 5 RETROFLEX HOOK 7 AND BELT 5 STROKE 3 LAMBDA WITH STROKE 3 LENIS F 3 LEZH 4 WITH
  RETROFLEX HOOK 3 LJ 3 LONG S 5 WITH DIAGONAL STROKE 6 DOT ABOVE 6 HIGH STROKE 3 LS DIGRAPH 3 LUM 3
  LZ DIGRAPH 3 M 4 WITH ACUTE 5 CROSSED-TAIL 5 DOT ABOVE 6 BELOW 5 HOOK 5 MIDDLE TILDE 5 PALATAL
  HOOK 3 MIDDLE SCOTS S 3 MIDDLE-WELSH LL 4 V 3 MUM 3 N 4 PRECEDED BY APOSTROPHE 4 WITH ACUTE 5
  CARON 5 CEDILLA 5 CIRCUMFLEX BELOW 5 CROSSED-TAIL 5 CURL 5 DESCENDER 5 DOT ABOVE 6 BELOW 5 GRAVE 5
  LEFT HOOK 5 LINE BELOW 5 LONG RIGHT LEG 5 MIDDLE TILDE 5 OBLIQUE STROKE 5 PALATAL HOOK 5 RETROFLEX
  HOOK 5 TILDE 3 NJ 3 NUM 3 O 4 WITH ACUTE 5 BREVE 5 CARON 5 CIRCUMFLEX 6 AND ACUTE 7 DOT BELOW 7
  GRAVE 7 HOOK ABOVE 7 TILDE 5 DIAERESIS 6 AND MACRON 5 DOT ABOVE 7 AND MACRON 6 BELOW 5 DOUBLE
  ACUTE 6 GRAVE 5 GRAVE 5 HOOK ABOVE 5 HORN 6 AND ACUTE 7 DOT BELOW 7 GRAVE 7 HOOK ABOVE 7 TILDE 5
  INVERTED BREVE 5 LONG STROKE OVERLAY 5 LOOP 5 LOW RING INSIDE 5 MACRON 6 AND ACUTE 7 GRAVE 5
  OGONEK 6 AND MACRON 5 RETROFLEX HOOK 5 STROKE 6 AND ACUTE 5 TILDE 6 AND ACUTE 7 DIAERESIS 7 MACRON
  3 OI 3 OLD POLISH O 3 OMEGA 3 OO 3 OPEN E 5 WITH RETROFLEX HOOK 4 O 5 WITH RETROFLEX HOOK 6 STROKE
  4 OE 3 OU 3 P 4 WITH ACUTE 5 DOT ABOVE 5 FLOURISH 5 HOOK 5 MIDDLE TILDE 5 PALATAL HOOK 5 SQUIRREL
  TAIL 5 STROKE 6 THROUGH DESCENDER 3 PHI 3 Q 4 WITH DIAGONAL STROKE 5 HOOK 6 TAIL 5 STROKE THROUGH
  DESCENDER 3 QP DIGRAPH 3 R 4 ROTUNDA 4 WITH ACUTE 5 CARON 5 CEDILLA 5 CROSSED-TAIL 5 DOT ABOVE 6
  BELOW 7 AND MACRON 5 DOUBLE GRAVE 5 FISHHOOK 6 AND MIDDLE TILDE 7 PALATAL HOOK 5 INVERTED BREVE 5
  LINE BELOW 5 LONG LEG 5 MIDDLE TILDE 5 OBLIQUE STROKE 5 PALATAL HOOK 5 STROKE 5 TAIL 4 WITHOUT
  HANDLE 3 RAMS HORN 3 REVERSED C 5 WITH DOT 4 E 4 ENG 4 HALF H 4 K 4 OPEN E 6 WITH HOOK 7 RETROFLEX
  HOOK 4 R WITH FISHHOOK 4 SCRIPT G 3 RUM 4 ROTUNDA 3 S 4 WITH ACUTE 6 AND DOT ABOVE 5 CARON 6 AND
  DOT ABOVE 5 CEDILLA 5 CIRCUMFLEX 5 COMMA BELOW 5 CURL 5 DOT ABOVE 6 BELOW 7 AND DOT ABOVE 5 HOOK 5
  MIDDLE TILDE 5 OBLIQUE STROKE 5 PALATAL HOOK 5 SHORT STROKE OVERLAY 5 SWASH TAIL 3 SAKHA YAT 3
  SALTILLO 3 SCHWA 4 WITH HOOK 5 RETROFLEX HOOK 3 SCRIPT G 5 WITH CROSSED-TAIL 4 R 5 WITH RING 3
  SHARP S 3 SIDEWAYS DIAERESIZED U 4 O 5 WITH STROKE 4 OPEN O 4 TURNED M 4 U 3 SIGMOID S 3 SQUAT
  REVERSED ESH 3 STIRRUP R 3 T 4 WITH CARON 5 CEDILLA 5 CIRCUMFLEX BELOW 5 COMMA BELOW 5 CURL 5
  DIAERESIS 5 DIAGONAL STROKE 5 DOT ABOVE 6 BELOW 5 HOOK 6 AND RETROFLEX HOOK 5 LINE BELOW 5 MIDDLE
  TILDE 5 PALATAL HOOK 5 RETROFLEX HOOK 5 STROKE 3 TAILLESS PHI 3 TC DIGRAPH WITH CURL 3 TESH
  DIGRAPH 5 WITH PALATAL HOOK 6 RETROFLEX HOOK 3 TH WITH STRIKETHROUGH 3 THORN 4 WITH STROKE 6
  THROUGH DESCENDER 3 TONE FIVE 4 SIX 4 TWO 3 TOP HALF O 3 TRESILLO 3 TS DIGRAPH 5 WITH RETROFLEX
  HOOK 3 TUM 3 TURNED A 4 AE 4 ALPHA 4 DELTA 4 E 4 G 4 H 5 WITH FISHHOOK 7 AND TAIL 4 I 4 INSULAR G
  4 K 4 L 4 M 5 WITH LONG LEG 4 O OPEN-O 6 WITH STROKE 4 OE 5 WITH HORIZONTAL STROKE 6 STROKE 4 OPEN
  E 4 R 5 WITH HOOK 6 LONG LEG 8 AND RETROFLEX HOOK 6 MIDDLE TILDE 6 PALATAL HOOK 6 TAIL 4 T 5 WITH
  CURL 4 UI 4 V 4 W 4 Y 5 WITH BELT 3 TZ 3 U 4 BAR 5 WITH SHORT RIGHT LEG 4 WITH ACUTE 5 BREVE 5
  CARON 5 CIRCUMFLEX 6 BELOW 5 DIAERESIS 6 AND ACUTE 7 CARON 7 GRAVE 7 MACRON 6 BELOW 5 DOT BELOW 5
  DOUBLE ACUTE 6 GRAVE 5 GRAVE 5 HOOK ABOVE 5 HORN 6 AND ACUTE 7 DOT BELOW 7 GRAVE 7 HOOK ABOVE 7
  TILDE 5 INVERTED BREVE 5 LEFT HOOK 5 MACRON 6 AND DIAERESIS 5 OGONEK 5 RETROFLEX HOOK 5 RING ABOVE
  5 SHORT RIGHT LEG 5 STROKE 5 TILDE 6 AND ACUTE 6 BELOW 3 UE 3 UI 3 UM 3 UO 3 UPSILON 4 WITH STROKE
  3 V 4 WITH CURL 5 DIAGONAL STROKE 5 DOT BELOW 5 HOOK 5 PALATAL HOOK 5 RIGHT HOOK 5 TILDE 3 VEND 3
  VISIGOTHIC Z 3 VOLAPUK AE 4 OE 4 UE 3 VY 3 W 4 WITH ACUTE 5 CIRCUMFLEX 5 DIAERESIS 5 DOT ABOVE 6
  BELOW 5 GRAVE 5 HOOK 5 RING ABOVE 3 X 4 WITH DIAERESIS 5 DOT ABOVE 5 LONG LEFT LEG 8 AND LOW RIGHT
  RING 8 WITH SERIF 5 LOW RIGHT RING 5 PALATAL HOOK 3 Y 4 WITH ACUTE 5 CIRCUMFLEX 5 DIAERESIS 5 DOT
  ABOVE 6 BELOW 5 GRAVE 5 HOOK 6 ABOVE 5 LOOP 5 MACRON 5 RING ABOVE 5 SHORT RIGHT LEG 5 STROKE 5
  TILDE 3 YOGH 3 Z 4 WITH ACUTE 5 CARON 5 CIRCUMFLEX 5 CURL 5 DESCENDER 5 DOT ABOVE 6 BELOW 5 HOOK 5
  LINE BELOW 5 MIDDLE TILDE 5 PALATAL HOOK 5 RETROFLEX HOOK 5 STROKE 5 SWASH TAIL 2 LIGATURE FF 3
  FFI 3 FFL 3 FI 3 FL 3 IJ 3 LONG S T 3 OE 3 ST 1 SUBSCRIPT SMALL LETTER A 4 E 4 H 4 I 4 J 4 K 4 L 4
  M 4 N 4 O 4 P 4 R 4 S 4 SCHWA 4 T 4 U 4 V 4 X 0 LEAF FLUTTERING IN WIND 0 LEAFY GREEN 0 LEDGER 0
  LEFT AND LOWER AND RIGHT TRIANGULAR THREE QUARTERS BLOCK 3 ONE EIGHTH BLOCK 2 RIGHT DOUBLE
  TURNSTILE 3 TACK 3 TRIANGULAR HALF BLOCK 2 UPPER AND RIGHT TRIANGULAR THREE QUARTERS BLOCK 3 ONE
  EIGHTH BLOCK 1 ANGER BUBBLE 1 ANGLE BRACKET 3 WITH DOT 1 ARC LESS-THAN BRACKET 1 ARROW WITH
  CIRCLED PLUS 3 SMALL CIRCLE 1 BARB DOWN RIGHT BARB DOWN HARPOON 5 UP HARPOON 2 UP RIGHT BARB DOWN
  HARPOON 5 UP HARPOON 1 BLACK LENTICULAR BRACKET 2 TORTOISE SHELL BRACKET 1 CEILING 1 CLOSED ENTRY
  1 CORNER BRACKET 1 CURLY BRACKET 3 LOWER HOOK 3 MIDDLE PIECE 3 UPPER HOOK 1 DOTTED SUBSTITUTION
  BRACKET 1 DOUBLE ANGLE BRACKET 2 PARENTHESIS 2 QUOTATION MARK 2 WIGGLY FENCE 1 FISH TAIL 1 FIVE
  EIGHTHS BLOCK 1 FLOOR 1 HALF BLACK CIRCLE 3 STAR 2 BLOCK 2 CIRCLE 3 WITH DOT 4 FOUR DOTS 4 THREE
  DOTS 4 TWO DOTS 2 FOLDER 2 INVERSE MEDIUM SHADE AND RIGHT HALF BLOCK 2 MEDIUM SHADE 2 RUNNING MAN
  1 HAND TELEPHONE RECEIVER 1 LOW PARAPHRASE BRACKET 1 LUGGAGE 1 MULTIMAP 1 NORMAL FACTOR SEMIDIRECT
  PRODUCT 1 ONE EIGHTH BLOCK 2 QUARTER BLOCK 1 OUTER JOIN 1 PARENTHESIS 2 EXTENSION 2 LOWER HOOK 2
  UPPER HOOK 1 RAISED OMISSION BRACKET 1 RIGHT ARROW 3 THROUGH SMALL CIRCLE 3 WITH DOUBLE VERTICAL
  STROKE 4 STROKE 4 VERTICAL STROKE 2 BLACK ARROW 2 DOUBLE ARROW 4 WITH STROKE 5 VERTICAL STROKE 2
  OPEN-HEADED ARROW 2 SANS-SERIF ARROW 2 TRIANGLE-HEADED ARROW 2 WAVE ARROW 2 WHITE ARROW 1 S-SHAPED
  BAG DELIMITER 1 SEMIDIRECT PRODUCT 1 SEVEN EIGHTHS BLOCK 1 SIDEWAYS U BRACKET 1 SINGLE QUOTATION
  MARK 1 SPEECH BUBBLE 1 SQUARE BRACKET 3 EXTENSION 3 LOWER CORNER 3 UPPER CORNER 3 WITH DOUBLE
  STROKE 4 QUILL 4 STROKE 4 TICK IN BOTTOM CORNER 6 TOP CORNER 4 UNDERBAR 1 SUBSTITUTION BRACKET 1
  TACK 1 THIRD WHITE RIGHT POINTING INDEX 1 THOUGHT BUBBLE 1 THREE EIGHTHS BLOCK 2 QUARTERS BLOCK 1
  TORTOISE SHELL BRACKET 1 TRANSPOSITION BRACKET 1 TRIANGLE BESIDE VERTICAL BAR 1 TRIANGULAR ONE
  QUARTER BLOCK 1 VERTICAL BAR WITH QUILL 2 BOX LINE 1 WHITE CORNER BRACKET 2 CURLY BRACKET 2
  LENTICULAR BRACKET 2 PARENTHESIS 2 SQUARE BRACKET 2 TORTOISE SHELL BRACKET 1 WIGGLY FENCE 1
  WRITING HAND 0 LEFT-FACING ARMENIAN ETERNITY SIGN 1 FIST 1 SVASTI SIGN 3 WITH DOTS 0 LEFT-HANDED
  INTERLACED PENTAGRAM 0 LEFT-POINTING ANGLE BRACKET 1 CURVED ANGLE BRACKET 1 DOUBLE ANGLE QUOTATION
  MARK 1 MAGNIFYING GLASS 0 LEFT-SHADED WHITE RIGHTWARDS ARROW 0 LEFT-SIDE ARC ANTICLOCKWISE ARROW 0
  LEFT-TO-RIGHT EMBEDDING 1 ISOLATE 1 MARK 1 OVERRIDE 0 LEFTWARDS ARROW 2 ABOVE ALMOST EQUAL TO 3
  REVERSE ALMOST EQUAL TO 4 TILDE OPERATOR 3 SHORT RIGHTWARDS ARROW 3 TILDE OPERATOR 2 AND UPPER AND
  LOWER ONE EIGHTH BLOCK 2 FROM BAR 4 TO BLACK DIAMOND 2 OVER RIGHTWARDS ARROW 2 THROUGH LESS-THAN 3
  SUBSET 3 X 2 TO BAR 4 OVER RIGHTWARDS ARROW TO BAR 3 BLACK DIAMOND 2 WITH DOTTED STEM 3 DOUBLE
  VERTICAL STROKE 3 EQUILATERAL ARROWHEAD 3 HOOK 3 LARGE TRIANGLE ARROWHEAD 3 LOOP 3 MEDIUM TRIANGLE
  ARROWHEAD 3 NOTCHED TAIL 3 PLUS BELOW 3 SMALL EQUILATERAL ARROWHEAD 4 TRIANGLE ARROWHEAD 3 STROKE
  3 TAIL 4 WITH DOUBLE VERTICAL STROKE 5 VERTICAL STROKE 3 TIP DOWNWARDS 4 UPWARDS 3 VERTICAL STROKE
  1 ARROW-TAIL 1 BACK-TILTED SHADOWED WHITE ARROW 1 BLACK ARROW 2 CIRCLED WHITE ARROW 1
  BOTTOM-SHADED WHITE ARROW 1 COMPRESSED ARROW 1 DASHED ARROW 1 DOUBLE ARROW 3 FROM BAR 3 WITH
  STROKE 4 VERTICAL STROKE 2 ARROW-TAIL 2 DASH ARROW 1 FINGER-POST ARROW 1 FRONT-TILTED SHADOWED
  WHITE ARROW 1 HAND 1 HARPOON OVER RIGHTWARDS HARPOON 2 WITH BARB DOWN ABOVE RIGHTWARDS HARPOON
  WITH BARB DOWN 5 BELOW LONG DASH 5 FROM BAR 5 TO BAR 4 DOWNWARDS 4 UP ABOVE LEFTWARDS HARPOON WITH
  BARB DOWN 6 LONG DASH 6 RIGHTWARDS HARPOON WITH BARB UP 5 FROM BAR 5 TO BAR 4 UPWARDS 1 HEAVY
  ARROW 2 COMPRESSED ARROW 1 LEFT-SHADED WHITE ARROW 1 OPEN-HEADED ARROW 1 PAIRED ARROWS 1 QUADRUPLE
  ARROW 1 RIGHT-SHADED WHITE ARROW 1 ROCKET 1 SANS-SERIF ARROW 1 SQUARED ARROW 1 SQUIGGLE ARROW 1
  TOP SHADED WHITE ARROW 1 TRIANGLE ARROWHEAD 1 TRIANGLE-HEADED ARROW 3 OVER RIGHTWARDS
  TRIANGLE-HEADED ARROW 3 TO BAR 3 WITH BOLD SHAFT 4 DOUBLE HORIZONTAL STROKE 5 VERTICAL STROKE 4
  HEAVY SHAFT 4 LONG TIP DOWNWARDS 6 UPWARDS 4 MEDIUM SHAFT 4 NARROW SHAFT 4 VERY HEAVY SHAFT 2
  DASHED ARROW 2 PAIRED ARROWS 1 TRIPLE ARROW 2 DASH ARROW 1 TWO HEADED ARROW 1 TWO-HEADED ARROW
  FROM BAR 3 WITH DOUBLE VERTICAL STROKE 4 TAIL 5 WITH DOUBLE VERTICAL STROKE 6 VERTICAL STROKE 4
  TRIANGLE ARROWHEADS 4 VERTICAL STROKE 2 TRIPLE DASH ARROW 1 WAVE ARROW 1 WHITE ARROW 3 WITHIN
  TRIANGLE ARROWHEAD 0 LEG 0 LEMON 0 LEO 0 LEOPARD 0 LEPCHA CONSONANT SIGN K 3 KANG 3 L 3 M 3 N 3
  NYIN-DO 3 P 3 R 3 T 1 DIGIT EIGHT 2 FIVE 2 FOUR 2 NINE 2 ONE 2 SEVEN 2 SIX 2 THREE 2 TWO 2 ZERO 1
  LETTER A 2 BA 2 BLA 2 CA 2 CHA 2 DA 2 DDA 2 DZA 2 FA 2 FLA 2 GA 2 GLA 2 HA 2 HLA 2 JA 2 KA 2 KHA 2
  KLA 2 LA 2 MA 2 MLA 2 NA 2 NGA 2 NYA 2 PA 2 PHA 2 PLA 2 RA 2 SA 2 SHA 2 TA 2 THA 2 TSA 2 TSHA 2
  TTA 2 TTHA 2 VA 2 WA 2 YA 1 PUNCTUATION CER-WA 2 NYET THYOOM TA-ROL 2 TA-ROL 2 TSHOOK 3 CER-WA 1
  SIGN NUKTA 2 RAN 1 SUBJOINED LETTER RA 3 YA 1 VOWEL SIGN AA 3 E 3 I 3 O 3 OO 3 U 3 UU 0 LESS-THAN
  ABOVE DOUBLE-LINE EQUAL ABOVE GREATER-THAN 2 GREATER-THAN ABOVE DOUBLE-LINE EQUAL 2 LEFTWARDS
  ARROW 2 SIMILAR ABOVE GREATER-THAN 3 OR EQUAL 2 SLANTED EQUAL ABOVE GREATER-THAN ABOVE SLANTED
  EQUAL 1 AND NOT APPROXIMATE 2 SINGLE-LINE NOT EQUAL TO 1 BUT NOT EQUAL TO 3 EQUIVALENT TO 1 CLOSED
  BY CURVE 4 ABOVE SLANTED EQUAL 1 EQUAL TO OR GREATER-THAN 1 OR APPROXIMATE 2 EQUAL TO 2 EQUIVALENT
  TO 2 GREATER-THAN 2 SLANTED EQUAL TO 5 WITH DOT ABOVE 8 RIGHT 7 INSIDE 1 OVER EQUAL TO 1 SIGN 1
  WITH CIRCLE INSIDE 2 DOT 2 QUESTION MARK ABOVE 0 LEVEL SLIDER 0 LF 0 LIBRA 0 LIGATURE OPEN ET
  ORNAMENT 0 LIGHT CHECK MARK 1 EIGHT SPOKED ASTERISK 1 FIVE POINTED BLACK STAR 2 SPOKED ASTERISK 1
  FOUR POINTED BLACK CUSP 4 STAR 1 GREEK CROSS 1 LEFT TORTOISE SHELL BRACKET ORNAMENT 1 RAIL 1 RIGHT
  TORTOISE SHELL BRACKET ORNAMENT 1 SALTIRE 1 SHADE 1 SIX SPOKED ASTERISK 1 THREE POINTED BLACK STAR
  1 TWELVE POINTED BLACK STAR 1 VERTICAL BAR 1 WHITE SQUARE 0 LIGHTNING 1 MOOD 2 BUBBLE 0 LIMBU
  DIGIT EIGHT 2 FIVE 2 FOUR 2 NINE 2 ONE 2 SEVEN 2 SIX 2 THREE 2 TWO 2 ZERO 1 EXCLAMATION MARK 1
  LETTER BA 2 BHA 2 CA 2 CHA 2 DA 2 DHA 2 GA 2 GHA 2 GYAN 2 HA 2 JA 2 JHA 2 KA 2 KHA 2 LA 2 MA 2 NA
  2 NGA 2 PA 2 PHA 2 RA 2 SA 2 SHA 2 SSA 2 TA 2 THA 2 TRA 2 WA 2 YA 2 YAN 1 QUESTION MARK 1 SIGN
  KEMPHRENG 2 LOO 2 MUKPHRENG 2 SA-I 1 SMALL LETTER ANUSVARA 3 KA 3 LA 3 MA 3 NA 3 NGA 3 PA 3 RA 3
  TA 1 SUBJOINED LETTER RA 3 WA 3 YA 1 VOWEL SIGN A 3 AI 3 AU 3 E 3 EE 3 I 3 O 3 OO 3 U 1
  VOWEL-CARRIER LETTER 0 LIMITED LIABILITY SIGN 0 LINE FEED 1 INTEGRATION NOT INCLUDING THE POLE 2
  WITH RECTANGULAR PATH AROUND POLE 3 SEMICIRCULAR PATH AROUND POLE 1 SEPARATOR 1 TABULATION 2 SET 0
  LINEAR A SIGN A028B 3 A100-102 3 A120B 3 A131C 3 A301 3 A302 3 A303 3 A304 3 A305 3 A306 3 A307 3
  A308 3 A309A 3 A309B 3 A309C 3 A310 3 A311 3 A312 3 A313A 3 A313B 3 A313C 3 A314 3 A315 3 A316 3
  A317 3 A318 3 A319 3 A320 3 A321 3 A322 3 A323 3 A324 3 A325 3 A326 3 A327 3 A328 3 A329 3 A330 3
  A331 3 A332 3 A333 3 A334 3 A335 3 A336 3 A337 3 A338 3 A339 3 A340 3 A341 3 A342 3 A343 3 A344 3
  A345 3 A346 3 A347 3 A348 3 A349 3 A350 3 A351 3 A352 3 A353 3 A354 3 A355 3 A356 3 A357 3 A358 3
  A359 3 A360 3 A361 3 A362 3 A363 3 A364 3 A365 3 A366 3 A367 3 A368 3 A369 3 A370 3 A371 3
  A400-VAS 3 A401-VAS 3 A402-VAS 3 A403-VAS 3 A404-VAS 3 A405-VAS 3 A406-VAS 3 A407-VAS 3 A408-VAS 3
  A409-VAS 3 A410-VAS 3 A411-VAS 3 A412-VAS 3 A413-VAS 3 A414-VAS 3 A415-VAS 3 A416-VAS 3 A417-VAS 3
  A418-VAS 3 A501 3 A502 3 A503 3 A504 3 A505 3 A506 3 A508 3 A509 3 A510 3 A511 3 A512 3 A513 3
  A515 3 A516 3 A520 3 A521 3 A523 3 A524 3 A525 3 A526 3 A527 3 A528 3 A529 3 A530 3 A531 3 A532 3
  A534 3 A535 3 A536 3 A537 3 A538 3 A539 3 A540 3 A541 3 A542 3 A545 3 A547 3 A548 3 A549 3 A550 3
  A551 3 A552 3 A553 3 A554 3 A555 3 A556 3 A557 3 A559 3 A563 3 A564 3 A565 3 A566 3 A568 3 A569 3
  A570 3 A571 3 A572 3 A573 3 A574 3 A575 3 A576 3 A577 3 A578 3 A579 3 A580 3 A581 3 A582 3 A583 3
  A584 3 A585 3 A586 3 A587 3 A588 3 A589 3 A591 3 A592 3 A594 3 A595 3 A596 3 A598 3 A600 3 A601 3
  A602 3 A603 3 A604 3 A606 3 A608 3 A609 3 A610 3 A611 3 A612 3 A613 3 A614 3 A615 3 A616 3 A617 3
  A618 3 A619 3 A620 3 A621 3 A622 3 A623 3 A624 3 A626 3 A627 3 A628 3 A629 3 A634 3 A637 3 A638 3
  A640 3 A642 3 A643 3 A644 3 A645 3 A646 3 A648 3 A649 3 A651 3 A652 3 A653 3 A654 3 A655 3 A656 3
  A657 3 A658 3 A659 3 A660 3 A661 3 A662 3 A663 3 A664 3 A701 A 3 A702 B 3 A703 D 3 A704 E 3 A705 F
  3 A706 H 3 A707 J 3 A708 K 3 A709 L 3 A709-2 L2 3 A709-3 L3 3 A709-4 L4 3 A709-6 L6 3 A710 W 3
  A711 X 3 A712 Y 3 A713 OMEGA 3 A714 ABB 3 A715 BB 3 A717 DD 3 A726 EYYY 3 A732 JE 3 A800 3 A801 3
  A802 3 A803 3 A804 3 A805 3 A806 3 A807 3 AB001 3 AB002 3 AB003 3 AB004 3 AB005 3 AB006 3 AB007 3
  AB008 3 AB009 3 AB010 3 AB011 3 AB013 3 AB016 3 AB017 3 AB020 3 AB021 3 AB021F 3 AB021M 3 AB022 3
  AB022F 3 AB022M 3 AB023 3 AB023M 3 AB024 3 AB026 3 AB027 3 AB028 3 AB029 3 AB030 3 AB031 3 AB034 3
  AB037 3 AB038 3 AB039 3 AB040 3 AB041 3 AB044 3 AB045 3 AB046 3 AB047 3 AB048 3 AB049 3 AB050 3
  AB051 3 AB053 3 AB054 3 AB055 3 AB056 3 AB057 3 AB058 3 AB059 3 AB060 3 AB061 3 AB065 3 AB066 3
  AB067 3 AB069 3 AB070 3 AB073 3 AB074 3 AB076 3 AB077 3 AB078 3 AB079 3 AB080 3 AB081 3 AB082 3
  AB085 3 AB086 3 AB087 3 AB118 3 AB120 3 AB122 3 AB123 3 AB131A 3 AB131B 3 AB164 3 AB171 3 AB180 3
  AB188 3 AB191 1 B IDEOGRAM B100 MAN 3 B102 WOMAN 3 B104 DEER 3 B105 EQUID 3 B105F MARE 3 B105M
  STALLION 3 B106F EWE 3 B106M RAM 3 B107F SHE-GOAT 3 B107M HE-GOAT 3 B108F SOW 3 B108M BOAR 3 B109F
  COW 3 B109M BULL 3 B120 WHEAT 3 B121 BARLEY 3 B122 OLIVE 3 B123 SPICE 3 B125 CYPERUS 3 B130 OIL 3
  B131 WINE 3 B132 3 B140 BRONZE 3 B141 GOLD 3 B142 3 B145 WOOL 3 B146 3 B150 3 B151 HORN 3 B152 3
  B153 3 B154 3 B157 3 B158 3 B159 CLOTH 3 B160 3 B161 3 B162 GARMENT 3 B163 ARMOUR 3 B164 3 B165 3
  B166 3 B167 3 B168 3 B169 3 B170 3 B171 3 B172 3 B173 MONTH 3 B174 3 B176 TREE 3 B177 3 B178 3
  B179 3 B180 3 B181 3 B182 3 B183 3 B184 3 B185 3 B189 3 B190 3 B191 HELMET 3 B220 FOOTSTOOL 3 B225
  BATHTUB 3 B230 SPEAR 3 B231 ARROW 3 B232 3 B233 SWORD 3 B234 3 B236 3 B240 WHEELED CHARIOT 3 B241
  CHARIOT 3 B242 CHARIOT FRAME 3 B243 WHEEL 3 B245 3 B246 3 B248 3 B249 3 B251 3 B252 3 B253 3 B254
  DART 3 B255 3 B256 3 B257 3 B258 3 B259 3 VESSEL B155 4 B200 4 B201 4 B202 4 B203 4 B204 4 B205 4
  B206 4 B207 4 B208 4 B209 4 B210 4 B211 4 B212 4 B213 4 B214 4 B215 4 B216 4 B217 4 B218 4 B219 4
  B221 4 B222 4 B226 4 B227 4 B228 4 B229 4 B250 4 B305 2 MONOGRAM B127 KAPO 3 B128 KANAKO 3 B133
  AREPA 3 B135 MERI 3 B156 TURO2 3 B247 DIPTE 2 SYLLABLE B001 DA 3 B002 RO 3 B003 PA 3 B004 TE 3
  B005 TO 3 B006 NA 3 B007 DI 3 B008 A 3 B009 SE 3 B010 U 3 B011 PO 3 B012 SO 3 B013 ME 3 B014 DO 3
  B015 MO 3 B016 QA 3 B017 ZA 3 B020 ZO 3 B021 QI 3 B023 MU 3 B024 NE 3 B025 A2 3 B026 RU 3 B027 RE
  3 B028 I 3 B029 PU2 3 B030 NI 3 B031 SA 3 B032 QO 3 B033 RA3 3 B036 JO 3 B037 TI 3 B038 E 3 B039
  PI 3 B040 WI 3 B041 SI 3 B042 WO 3 B043 A3 3 B044 KE 3 B045 DE 3 B046 JE 3 B048 NWA 3 B050 PU 3
  B051 DU 3 B052 NO 3 B053 RI 3 B054 WA 3 B055 NU 3 B057 JA 3 B058 SU 3 B059 TA 3 B060 RA 3 B061 O 3
  B062 PTE 3 B065 JU 3 B066 TA2 3 B067 KI 3 B068 RO2 3 B069 TU 3 B070 KO 3 B071 DWE 3 B072 PE 3 B073
  MI 3 B074 ZE 3 B075 WE 3 B076 RA2 3 B077 KA 3 B078 QE 3 B080 MA 3 B081 KU 3 B085 AU 3 B087 TWE 3
  B090 DWO 3 B091 TWO 2 SYMBOL B018 3 B019 3 B022 3 B034 3 B047 3 B049 3 B056 3 B063 3 B064 3 B079 3
  B082 3 B083 3 B086 3 B089 0 LINK SYMBOL 0 LINKED PAPERCLIPS 0 LION FACE 0 LIPS 0 LIPSTICK 0 LIRA
  SIGN 0 LISU LETTER A 2 AE 2 BA 2 CA 2 CHA 2 DA 2 DZA 2 E 2 EU 2 FA 2 GA 2 GHA 2 HA 2 HHA 2 I 2 JA
  2 KA 2 KHA 2 LA 2 MA 2 NA 2 NGA 2 O 2 OE 2 PA 2 PHA 2 SA 2 SHA 2 TA 2 THA 2 TONE MYA BO 4 CYA 4
  JEU 4 NA 4 TI 3 NA PO 2 TSA 2 TSHA 2 U 2 UE 2 UH 2 WA 2 XA 2 YA 2 YHA 2 ZA 2 ZHA 1 PUNCTUATION
  COMMA 2 FULL STOP 0 LIVRE TOURNOIS SIGN 0 LIZARD 0 LLAMA 0 LOBSTER 0 LOCK 1 WITH INK PEN 0
  LOCKING-SHIFT ONE 1 ZERO 0 LOGICAL AND 2 WITH DOT ABOVE 3 DOUBLE OVERBAR 4 UNDERBAR 3 HORIZONTAL
  DASH 3 MIDDLE STEM 3 UNDERBAR 1 OR 2 OVERLAPPING LOGICAL AND 2 WITH DOT ABOVE 3 DOUBLE OVERBAR 4
  UNDERBAR 3 HORIZONTAL DASH 3 MIDDLE STEM 0 LOLLIPOP 0 LONG DASH FROM LEFT MEMBER OF DOUBLE
  VERTICAL 1 DIVISION 1 DRUM 1 LEFT RIGHT ARROW 3 DOUBLE ARROW 2 TACK 1 LEFTWARDS ARROW 3 FROM BAR 2
  DOUBLE ARROW 4 FROM BAR 2 SQUIGGLE ARROW 1 RIGHT TACK 1 RIGHTWARDS ARROW 3 FROM BAR 2 DOUBLE ARROW
  4 FROM BAR 2 SQUIGGLE ARROW 0 LOTION BOTTLE 0 LOTUS 0 LOUDLY CRYING FACE 0 LOVE HOTEL 1 LETTER 0
  LOW ASTERISK 1 BATTERY 1 BRIGHTNESS SYMBOL 1 DOUBLE PRIME QUOTATION MARK 1 KAVYKA 2 WITH DOT 1
  LINE 0 LOWER BLADE SCISSORS 1 FIVE EIGHTHS BLOCK 1 HALF BLOCK 2 CIRCLE 2 INVERSE WHITE CIRCLE 2
  MEDIUM SHADE 1 LEFT BALLPOINT PEN 2 BLOCK DIAGONAL LOWER MIDDLE LEFT TO LOWER CENTRE 9 RIGHT 4
  UPPER CENTRE TO LOWER MIDDLE RIGHT 8 RIGHT 7 UPPER MIDDLE RIGHT 5 LEFT TO LOWER CENTRE 8 MIDDLE
  RIGHT 7 UPPER MIDDLE RIGHT 5 MIDDLE LEFT TO LOWER CENTRE 9 MIDDLE RIGHT 9 RIGHT 2 CRAYON 2
  FOUNTAIN PEN 2 PAINTBRUSH 2 PENCIL 2 QUADRANT CIRCULAR ARC 2 SEMICIRCULAR ANTICLOCKWISE ARROW 2
  TRIANGLE 2 TRIANGULAR MEDIUM SHADE 1 ONE EIGHTH BLOCK 2 QUARTER BLOCK 1 RIGHT BLOCK DIAGONAL LOWER
  CENTRE TO LOWER MIDDLE RIGHT 7 UPPER MIDDLE RIGHT 8 RIGHT 5 LEFT TO LOWER MIDDLE RIGHT 7 UPPER
  CENTRE 8 MIDDLE RIGHT 5 MIDDLE LEFT TO UPPER CENTRE 9 MIDDLE RIGHT 9 RIGHT 4 UPPER MIDDLE LEFT TO
  UPPER CENTRE 9 RIGHT 2 CORNER WITH DOT 2 DROP-SHADOWED WHITE SQUARE 2 PENCIL 2 QUADRANT CIRCULAR
  ARC 2 SEMICIRCULAR CLOCKWISE ARROW 2 SHADOWED WHITE CIRCLE 4 SQUARE 2 TRIANGLE 2 TRIANGULAR MEDIUM
  SHADE 1 SEVEN EIGHTHS BLOCK 1 THREE EIGHTHS BLOCK 2 QUARTERS BLOCK 1 TRIANGULAR ONE QUARTER BLOCK
  0 LOZENGE 1 DIVIDED BY HORIZONTAL RULE 0 LRE 0 LRI 0 LRM 0 LRO 0 LUGGAGE 0 LUNGS 0 LYCIAN LETTER A
  2 AN 2 B 2 BH 2 D 2 E 2 EN 2 G 2 H 2 I 2 J 2 K 2 KK 2 L 2 M 2 MM 2 N 2 NN 2 P 2 Q 2 R 2 S 2 T 2 TH
  2 TT 2 U 2 W 2 X 2 Z 0 LYDIAN LETTER A 2 AN 2 B 2 C 2 D 2 E 2 EN 2 F 2 G 2 I 2 K 2 L 2 LY 2 M 2 N
  2 NN 2 O 2 Q 2 R 2 S 2 SS 2 T 2 TT 2 U 2 V 2 Y 1 TRIANGULAR MARK 0 LYING FACE 0 MACRON 0 MAGE 0
  MAGIC WAND 0 MAGNET 0 MAHAJANI ABBREVIATION SIGN 1 LETTER A 2 BA 2 BHA 2 CA 2 CHA 2 DA 2 DDA 2
  DDHA 2 DHA 2 E 2 GA 2 GHA 2 HA 2 I 2 JA 2 JHA 2 KA 2 KHA 2 LA 2 MA 2 NA 2 NNA 2 NYA 2 O 2 PA 2 PHA
  2 RA 2 RRA 2 SA 2 TA 2 THA 2 TTA 2 TTHA 2 U 2 VA 1 LIGATURE SHRI 1 SECTION MARK 1 SIGN NUKTA 0
  MAHJONG TILE AUTUMN 2 BACK 2 BAMBOO 2 CHRYSANTHEMUM 2 EAST WIND 2 EIGHT OF BAMBOOS 4 CHARACTERS 4
  CIRCLES 2 FIVE OF BAMBOOS 4 CHARACTERS 4 CIRCLES 2 FOUR OF BAMBOOS 4 CHARACTERS 4 CIRCLES 2 GREEN
  DRAGON 2 JOKER 2 NINE OF BAMBOOS 4 CHARACTERS 4 CIRCLES 2 NORTH WIND 2 ONE OF BAMBOOS 4 CHARACTERS
  4 CIRCLES 2 ORCHID 2 PLUM 2 RED DRAGON 2 SEVEN OF BAMBOOS 4 CHARACTERS 4 CIRCLES 2 SIX OF BAMBOOS
  4 CHARACTERS 4 CIRCLES 2 SOUTH WIND 2 SPRING 2 SUMMER 2 THREE OF BAMBOOS 4 CHARACTERS 4 CIRCLES 2
  TWO OF BAMBOOS 4 CHARACTERS 4 CIRCLES 2 WEST WIND 2 WHITE DRAGON 2 WINTER 0 MAKASAR ANGKA 1 END OF
  SECTION 1 LETTER A 2 BA 2 CA 2 DA 2 GA 2 JA 2 KA 2 LA 2 MA 2 NA 2 NGA 2 NYA 2 PA 2 RA 2 SA 2 TA 2
  VA 2 YA 1 PASSIMBANG 1 VOWEL SIGN E 3 I 3 O 3 U 0 MALAYALAM AU LENGTH MARK 1 DATE MARK 1 DIGIT
  EIGHT 2 FIVE 2 FOUR 2 NINE 2 ONE 2 SEVEN 2 SIX 2 THREE 2 TWO 2 ZERO 1 FRACTION ONE EIGHTH 3 FIFTH
  3 FORTIETH 3 HALF 3 ONE-HUNDRED-AND-SIXTIETH 3 QUARTER 3 SIXTEENTH 3 TENTH 3 TWENTIETH 2 THREE
  EIGHTIETHS 3 QUARTERS 3 SIXTEENTHS 3 TWENTIETHS 1 LETTER A 2 AA 2 AI 2 ARCHAIC II 2 AU 2 BA 2 BHA
  2 CA 2 CHA 2 CHILLU K 3 L 3 LL 3 LLL 3 M 3 N 3 NN 3 RR 3 Y 2 DA 2 DDA 2 DDHA 2 DHA 2 DOT REPH 2 E
  2 EE 2 GA 2 GHA 2 HA 2 I 2 II 2 JA 2 JHA 2 KA 2 KHA 2 LA 2 LLA 2 LLLA 2 MA 2 NA 2 NGA 2 NNA 2 NNNA
  2 NYA 2 O 2 OO 2 PA 2 PHA 2 RA 2 RRA 2 SA 2 SHA 2 SSA 2 TA 2 THA 2 TTA 2 TTHA 2 TTTA 2 U 2 UU 2 VA
  2 VEDIC ANUSVARA 2 VOCALIC L 3 LL 3 R 3 RR 2 YA 1 NUMBER ONE HUNDRED 3 THOUSAND 2 TEN 1 SIGN
  ANUSVARA 2 AVAGRAHA 2 CANDRABINDU 2 CIRCULAR VIRAMA 2 COMBINING ANUSVARA ABOVE 2 PARA 2 VERTICAL
  BAR VIRAMA 2 VIRAMA 2 VISARGA 1 VOWEL SIGN AA 3 AI 3 AU 3 E 3 EE 3 I 3 II 3 O 3 OO 3 U 3 UU 3
  VOCALIC L 4 LL 4 R 4 RR 0 MALE AND FEMALE SIGN 1 SIGN 1 WITH STROKE AND MALE AND FEMALE SIGN 3
  SIGN 0 MALTESE CROSS 0 MAMMOTH 0 MAN 1 AND WOMAN HOLDING HANDS 1 DANCING 1 IN BUSINESS SUIT
  LEVITATING 2 TUXEDO 1 WITH GUA PI MAO 2 TURBAN 0 MANAT SIGN 0 MANDAIC AFFRICATION MARK 1
  GEMINATION MARK 1 LETTER AB 2 AD 2 AG 2 AH 2 AIN 2 AK 2 AKSA 2 AL 2 AM 2 AN 2 AP 2 AQ 2 AR 2 AS 2
  ASH 2 ASZ 2 AT 2 ATT 2 AZ 2 DUSHENNA 2 HALQA 2 IN 2 IT 2 KAD 2 USHENNA 1 PUNCTUATION 1
  VOCALIZATION MARK 0 MANGO 0 MANICHAEAN ABBREVIATION MARK ABOVE 3 BELOW 1 LETTER AAYIN 2 ALEPH 2
  AYIN 2 BETH 2 BHETH 2 DALETH 2 DHAMEDH 2 FE 2 GHIMEL 2 GIMEL 2 HE 2 HETH 2 JAYIN 2 JHAYIN 2 KAPH 2
  KHAPH 2 LAMEDH 2 MEM 2 NUN 2 PE 2 QHOPH 2 QOPH 2 RESH 2 SADHE 2 SAMEKH 2 SHIN 2 SSHIN 2 TAW 2 TETH
  2 THAMEDH 2 WAW 2 XAPH 2 XOPH 2 YODH 2 ZAYIN 2 ZHAYIN 1 NUMBER FIVE 2 ONE 3 HUNDRED 2 TEN 2 TWENTY
  1 PUNCTUATION DOT 3 WITHIN DOT 2 DOUBLE DOT WITHIN DOT 2 FLEURON 2 LINE FILLER 2 STAR 2 TWO DOTS 1
  SIGN UD 0 MANS SHOE 0 MANTELPIECE CLOCK 0 MANUAL WHEELCHAIR 0 MAP SYMBOL FOR LIGHTHOUSE 0 MAPLE
  LEAF 0 MARCHEN HEAD MARK 1 LETTER -A 2 A 2 BA 2 CA 2 CHA 2 DA 2 DZA 2 GA 2 HA 2 JA 2 KA 2 KHA 2 LA
  2 MA 2 NA 2 NGA 2 NYA 2 PA 2 PHA 2 RA 2 SA 2 SHA 2 TA 2 THA 2 TSA 2 TSHA 2 WA 2 YA 2 ZA 2 ZHA 1
  MARK SHAD 1 SIGN ANUSVARA 2 CANDRABINDU 1 SUBJOINED LETTER A 3 BA 3 CA 3 CHA 3 DA 3 DZA 3 GA 3 HA
  3 JA 3 KA 3 KHA 3 LA 3 MA 3 NA 3 NGA 3 NYA 3 PA 3 PHA 3 RA 3 SA 3 SHA 3 TA 3 THA 3 TSA 3 TSHA 3 WA
  3 YA 3 ZA 3 ZHA 1 VOWEL SIGN AA 3 E 3 I 3 O 3 U 0 MARRIAGE SYMBOL 0 MARTIAL ARTS UNIFORM 0 MASARAM
  GONDI DIGIT EIGHT 3 FIVE 3 FOUR 3 NINE 3 ONE 3 SEVEN 3 SIX 3 THREE 3 TWO 3 ZERO 2 LETTER A 3 AA 3
  AI 3 AU 3 BA 3 BHA 3 CA 3 CHA 3 DA 3 DDA 3 DDHA 3 DHA 3 E 3 GA 3 GHA 3 HA 3 I 3 II 3 JA 3 JHA 3
  JNYA 3 KA 3 KHA 3 KSSA 3 LA 3 LLA 3 MA 3 NA 3 NGA 3 NNA 3 NYA 3 O 3 PA 3 PHA 3 RA 3 SA 3 SHA 3 SSA
  3 TA 3 THA 3 TRA 3 TTA 3 TTHA 3 U 3 UU 3 VA 3 YA 2 RA-KARA 2 REPHA 2 SIGN ANUSVARA 3 CANDRA 3
  HALANTA 3 NUKTA 3 VISARGA 2 VIRAMA 2 VOWEL SIGN AA 4 AI 4 AU 4 E 4 I 4 II 4 O 4 U 4 UU 4 VOCALIC R
  0 MASCULINE ORDINAL INDICATOR 0 MASK WORK SYMBOL 0 MASU MARK 0 MATE DRINK 0 MATHEMATICAL BOLD
  CAPITAL A 3 ALPHA 3 B 3 BETA 3 C 3 CHI 3 D 3 DELTA 3 DIGAMMA 3 E 3 EPSILON 3 ETA 3 F 3 G 3 GAMMA 3
  H 3 I 3 IOTA 3 J 3 K 3 KAPPA 3 L 3 LAMDA 3 M 3 MU 3 N 3 NU 3 O 3 OMEGA 3 OMICRON 3 P 3 PHI 3 PI 3
  PSI 3 Q 3 R 3 RHO 3 S 3 SIGMA 3 T 3 TAU 3 THETA 4 SYMBOL 3 U 3 UPSILON 3 V 3 W 3 X 3 XI 3 Y 3 Z 3
  ZETA 2 DIGIT EIGHT 3 FIVE 3 FOUR 3 NINE 3 ONE 3 SEVEN 3 SIX 3 THREE 3 TWO 3 ZERO 2 EPSILON SYMBOL
  2 FRAKTUR CAPITAL A 4 B 4 C 4 D 4 E 4 F 4 G 4 H 4 I 4 J 4 K 4 L 4 M 4 N 4 O 4 P 4 Q 4 R 4 S 4 T 4
  U 4 V 4 W 4 X 4 Y 4 Z 3 SMALL A 4 B 4 C 4 D 4 E 4 F 4 G 4 H 4 I 4 J 4 K 4 L 4 M 4 N 4 O 4 P 4 Q 4
  R 4 S 4 T 4 U 4 V 4 W 4 X 4 Y 4 Z 2 ITALIC CAPITAL A 4 ALPHA 4 B 4 BETA 4 C 4 CHI 4 D 4 DELTA 4 E
  4 EPSILON 4 ETA 4 F 4 G 4 GAMMA 4 H 4 I 4 IOTA 4 J 4 K 4 KAPPA 4 L 4 LAMDA 4 M 4 MU 4 N 4 NU 4 O 4
  OMEGA 4 OMICRON 4 P 4 PHI 4 PI 4 PSI 4 Q 4 R 4 RHO 4 S 4 SIGMA 4 T 4 TAU 4 THETA 5 SYMBOL 4 U 4
  UPSILON 4 V 4 W 4 X 4 XI 4 Y 4 Z 4 ZETA 3 EPSILON SYMBOL 3 KAPPA SYMBOL 3 NABLA 3 PARTIAL
  DIFFERENTIAL 3 PHI SYMBOL 3 PI SYMBOL 3 RHO SYMBOL 3 SMALL A 4 ALPHA 4 B 4 BETA 4 C 4 CHI 4 D 4
  DELTA 4 E 4 EPSILON 4 ETA 4 F 4 FINAL SIGMA 4 G 4 GAMMA 4 H 4 I 4 IOTA 4 J 4 K 4 KAPPA 4 L 4 LAMDA
  4 M 4 MU 4 N 4 NU 4 O 4 OMEGA 4 OMICRON 4 P 4 PHI 4 PI 4 PSI 4 Q 4 R 4 RHO 4 S 4 SIGMA 4 T 4 TAU 4
  THETA 4 U 4 UPSILON 4 V 4 W 4 X 4 XI 4 Y 4 Z 4 ZETA 3 THETA SYMBOL 2 KAPPA SYMBOL 2 NABLA 2
  PARTIAL DIFFERENTIAL 2 PHI SYMBOL 2 PI SYMBOL 2 RHO SYMBOL 2 SCRIPT CAPITAL A 4 B 4 C 4 D 4 E 4 F
  4 G 4 H 4 I 4 J 4 K 4 L 4 M 4 N 4 O 4 P 4 Q 4 R 4 S 4 T 4 U 4 V 4 W 4 X 4 Y 4 Z 3 SMALL A 4 B 4 C
  4 D 4 E 4 F 4 G 4 H 4 I 4 J 4 K 4 L 4 M 4 N 4 O 4 P 4 Q 4 R 4 S 4 T 4 U 4 V 4 W 4 X 4 Y 4 Z 2
  SMALL A 3 ALPHA 3 B 3 BETA 3 C 3 CHI 3 D 3 DELTA 3 DIGAMMA 3 E 3 EPSILON 3 ETA 3 F 3 FINAL SIGMA 3
  G 3 GAMMA 3 H 3 I 3 IOTA 3 J 3 K 3 KAPPA 3 L 3 LAMDA 3 M 3 MU 3 N 3 NU 3 O 3 OMEGA 3 OMICRON 3 P 3
  PHI 3 PI 3 PSI 3 Q 3 R 3 RHO 3 S 3 SIGMA 3 T 3 TAU 3 THETA 3 U 3 UPSILON 3 V 3 W 3 X 3 XI 3 Y 3 Z
  3 ZETA 2 THETA SYMBOL 1 DOUBLE-STRUCK CAPITAL A 3 B 3 D 3 E 3 F 3 G 3 I 3 J 3 K 3 L 3 M 3 O 3 S 3
  T 3 U 3 V 3 W 3 X 3 Y 2 DIGIT EIGHT 3 FIVE 3 FOUR 3 NINE 3 ONE 3 SEVEN 3 SIX 3 THREE 3 TWO 3 ZERO
  2 SMALL A 3 B 3 C 3 D 3 E 3 F 3 G 3 H 3 I 3 J 3 K 3 L 3 M 3 N 3 O 3 P 3 Q 3 R 3 S 3 T 3 U 3 V 3 W
  3 X 3 Y 3 Z 1 FALLING DIAGONAL 1 FRAKTUR CAPITAL A 3 B 3 D 3 E 3 F 3 G 3 J 3 K 3 L 3 M 3 N 3 O 3 P
  3 Q 3 S 3 T 3 U 3 V 3 W 3 X 3 Y 2 SMALL A 3 B 3 C 3 D 3 E 3 F 3 G 3 H 3 I 3 J 3 K 3 L 3 M 3 N 3 O
  3 P 3 Q 3 R 3 S 3 T 3 U 3 V 3 W 3 X 3 Y 3 Z 1 ITALIC CAPITAL A 3 ALPHA 3 B 3 BETA 3 C 3 CHI 3 D 3
  DELTA 3 E 3 EPSILON 3 ETA 3 F 3 G 3 GAMMA 3 H 3 I 3 IOTA 3 J 3 K 3 KAPPA 3 L 3 LAMDA 3 M 3 MU 3 N
  3 NU 3 O 3 OMEGA 3 OMICRON 3 P 3 PHI 3 PI 3 PSI 3 Q 3 R 3 RHO 3 S 3 SIGMA 3 T 3 TAU 3 THETA 4
  SYMBOL 3 U 3 UPSILON 3 V 3 W 3 X 3 XI 3 Y 3 Z 3 ZETA 2 EPSILON SYMBOL 2 KAPPA SYMBOL 2 NABLA 2
  PARTIAL DIFFERENTIAL 2 PHI SYMBOL 2 PI SYMBOL 2 RHO SYMBOL 2 SMALL A 3 ALPHA 3 B 3 BETA 3 C 3 CHI
  3 D 3 DELTA 3 DOTLESS I 4 J 3 E 3 EPSILON 3 ETA 3 F 3 FINAL SIGMA 3 G 3 GAMMA 3 I 3 IOTA 3 J 3 K 3
  KAPPA 3 L 3 LAMDA 3 M 3 MU 3 N 3 NU 3 O 3 OMEGA 3 OMICRON 3 P 3 PHI 3 PI 3 PSI 3 Q 3 R 3 RHO 3 S 3
  SIGMA 3 T 3 TAU 3 THETA 3 U 3 UPSILON 3 V 3 W 3 X 3 XI 3 Y 3 Z 3 ZETA 2 THETA SYMBOL 1 LEFT ANGLE
  BRACKET 2 DOUBLE ANGLE BRACKET 2 FLATTENED PARENTHESIS 2 WHITE SQUARE BRACKET 3 TORTOISE SHELL
  BRACKET 1 MONOSPACE CAPITAL A 3 B 3 C 3 D 3 E 3 F 3 G 3 H 3 I 3 J 3 K 3 L 3 M 3 N 3 O 3 P 3 Q 3 R
  3 S 3 T 3 U 3 V 3 W 3 X 3 Y 3 Z 2 DIGIT EIGHT 3 FIVE 3 FOUR 3 NINE 3 ONE 3 SEVEN 3 SIX 3 THREE 3
  TWO 3 ZERO 2 SMALL A 3 B 3 C 3 D 3 E 3 F 3 G 3 H 3 I 3 J 3 K 3 L 3 M 3 N 3 O 3 P 3 Q 3 R 3 S 3 T 3
  U 3 V 3 W 3 X 3 Y 3 Z 1 RIGHT ANGLE BRACKET 2 DOUBLE ANGLE BRACKET 2 FLATTENED PARENTHESIS 2 WHITE
  SQUARE BRACKET 3 TORTOISE SHELL BRACKET 1 RISING DIAGONAL 1 SANS-SERIF BOLD CAPITAL A 4 ALPHA 4 B
  4 BETA 4 C 4 CHI 4 D 4 DELTA 4 E 4 EPSILON 4 ETA 4 F 4 G 4 GAMMA 4 H 4 I 4 IOTA 4 J 4 K 4 KAPPA 4
  L 4 LAMDA 4 M 4 MU 4 N 4 NU 4 O 4 OMEGA 4 OMICRON 4 P 4 PHI 4 PI 4 PSI 4 Q 4 R 4 RHO 4 S 4 SIGMA 4
  T 4 TAU 4 THETA 5 SYMBOL 4 U 4 UPSILON 4 V 4 W 4 X 4 XI 4 Y 4 Z 4 ZETA 3 DIGIT EIGHT 4 FIVE 4 FOUR
  4 NINE 4 ONE 4 SEVEN 4 SIX 4 THREE 4 TWO 4 ZERO 3 EPSILON SYMBOL 3 ITALIC CAPITAL A 5 ALPHA 5 B 5
  BETA 5 C 5 CHI 5 D 5 DELTA 5 E 5 EPSILON 5 ETA 5 F 5 G 5 GAMMA 5 H 5 I 5 IOTA 5 J 5 K 5 KAPPA 5 L
  5 LAMDA 5 M 5 MU 5 N 5 NU 5 O 5 OMEGA 5 OMICRON 5 P 5 PHI 5 PI 5 PSI 5 Q 5 R 5 RHO 5 S 5 SIGMA 5 T
  5 TAU 5 THETA 6 SYMBOL 5 U 5 UPSILON 5 V 5 W 5 X 5 XI 5 Y 5 Z 5 ZETA 4 EPSILON SYMBOL 4 KAPPA
  SYMBOL 4 NABLA 4 PARTIAL DIFFERENTIAL 4 PHI SYMBOL 4 PI SYMBOL 4 RHO SYMBOL 4 SMALL A 5 ALPHA 5 B
  5 BETA 5 C 5 CHI 5 D 5 DELTA 5 E 5 EPSILON 5 ETA 5 F 5 FINAL SIGMA 5 G 5 GAMMA 5 H 5 I 5 IOTA 5 J
  5 K 5 KAPPA 5 L 5 LAMDA 5 M 5 MU 5 N 5 NU 5 O 5 OMEGA 5 OMICRON 5 P 5 PHI 5 PI 5 PSI 5 Q 5 R 5 RHO
  5 S 5 SIGMA 5 T 5 TAU 5 THETA 5 U 5 UPSILON 5 V 5 W 5 X 5 XI 5 Y 5 Z 5 ZETA 4 THETA SYMBOL 3 KAPPA
  SYMBOL 3 NABLA 3 PARTIAL DIFFERENTIAL 3 PHI SYMBOL 3 PI SYMBOL 3 RHO SYMBOL 3 SMALL A 4 ALPHA 4 B
  4 BETA 4 C 4 CHI 4 D 4 DELTA 4 E 4 EPSILON 4 ETA 4 F 4 FINAL SIGMA 4 G 4 GAMMA 4 H 4 I 4 IOTA 4 J
  4 K 4 KAPPA 4 L 4 LAMDA 4 M 4 MU 4 N 4 NU 4 O 4 OMEGA 4 OMICRON 4 P 4 PHI 4 PI 4 PSI 4 Q 4 R 4 RHO
  4 S 4 SIGMA 4 T 4 TAU 4 THETA 4 U 4 UPSILON 4 V 4 W 4 X 4 XI 4 Y 4 Z 4 ZETA 3 THETA SYMBOL 2
  CAPITAL A 3 B 3 C 3 D 3 E 3 F 3 G 3 H 3 I 3 J 3 K 3 L 3 M 3 N 3 O 3 P 3 Q 3 R 3 S 3 T 3 U 3 V 3 W
  3 X 3 Y 3 Z 2 DIGIT EIGHT 3 FIVE 3 FOUR 3 NINE 3 ONE 3 SEVEN 3 SIX 3 THREE 3 TWO 3 ZERO 2 ITALIC
  CAPITAL A 4 B 4 C 4 D 4 E 4 F 4 G 4 H 4 I 4 J 4 K 4 L 4 M 4 N 4 O 4 P 4 Q 4 R 4 S 4 T 4 U 4 V 4 W
  4 X 4 Y 4 Z 3 SMALL A 4 B 4 C 4 D 4 E 4 F 4 G 4 H 4 I 4 J 4 K 4 L 4 M 4 N 4 O 4 P 4 Q 4 R 4 S 4 T
  4 U 4 V 4 W 4 X 4 Y 4 Z 2 SMALL A 3 B 3 C 3 D 3 E 3 F 3 G 3 H 3 I 3 J 3 K 3 L 3 M 3 N 3 O 3 P 3 Q
  3 R 3 S 3 T 3 U 3 V 3 W 3 X 3 Y 3 Z 1 SCRIPT CAPITAL A 3 C 3 D 3 G 3 J 3 K 3 N 3 O 3 P 3 Q 3 S 3 T
  3 U 3 V 3 W 3 X 3 Y 3 Z 2 SMALL A 3 B 3 C 3 D 3 F 3 H 3 I 3 J 3 K 3 L 3 M 3 N 3 P 3 Q 3 R 3 S 3 T
  3 U 3 V 3 W 3 X 3 Y 3 Z 0 MAXIMIZE 0 MAYAN NUMERAL EIGHT 2 EIGHTEEN 2 ELEVEN 2 FIFTEEN 2 FIVE 2
  FOUR 2 FOURTEEN 2 NINE 2 NINETEEN 2 ONE 2 SEVEN 2 SEVENTEEN 2 SIX 2 SIXTEEN 2 TEN 2 THIRTEEN 2
  THREE 2 TWELVE 2 TWO 2 ZERO 0 MEASURED ANGLE 2 OPENING LEFT 2 WITH OPEN ARM ENDING IN ARROW
  POINTING DOWN AND LEFT 11 RIGHT 9 LEFT AND DOWN 11 UP 9 RIGHT AND DOWN 11 UP 9 UP AND LEFT 11
  RIGHT 1 BY 1 RIGHT ANGLE WITH DOT 0 MEAT ON BONE 0 MECHANICAL ARM 1 LEG 0 MEDEFAIDRIN CAPITAL
  LETTER A 3 AI 3 ATIU 3 B 3 C 3 D 3 E 3 F 3 G 3 H 3 HP 3 I 3 J 3 K 3 KP 3 L 3 M 3 N 3 NG 3 NY 3 O 3
  OE 3 P 3 Q 3 R 3 S 3 T 3 U 3 V 3 W 3 X 3 Y 3 YU 3 Z 1 COMMA 1 DIGIT EIGHT 2 FIVE 2 FOUR 2 NINE 2
  ONE 3 ALTERNATE FORM 2 SEVEN 2 SIX 2 THREE 3 ALTERNATE FORM 2 TWO 3 ALTERNATE FORM 2 ZERO 1
  EXCLAMATION OH 1 FULL STOP 1 NUMBER EIGHTEEN 2 ELEVEN 2 FIFTEEN 2 FOURTEEN 2 NINETEEN 2 SEVENTEEN
  2 SIXTEEN 2 TEN 2 THIRTEEN 2 TWELVE 1 SMALL LETTER A 3 AI 3 ATIU 3 B 3 C 3 D 3 E 3 F 3 G 3 H 3 HP
  3 I 3 J 3 K 3 KP 3 L 3 M 3 N 3 NG 3 NY 3 O 3 OE 3 P 3 Q 3 R 3 S 3 T 3 U 3 V 3 W 3 X 3 Y 3 YU 3 Z 1
  SYMBOL AIVA 0 MEDIEVAL COMMA 1 EXCLAMATION MARK 1 QUESTION MARK 0 MEDIUM BLACK CIRCLE 1 BOLD WHITE
  CIRCLE 1 EIGHT POINTED BLACK STAR 2 SPOKED ASTERISK 1 FIVE SPOKED ASTERISK 1 FLATTENED LEFT
  PARENTHESIS ORNAMENT 2 RIGHT PARENTHESIS ORNAMENT 1 FOUR POINTED BLACK STAR 3 PINWHEEL STAR 1
  GREEK CROSS 1 LEFT CURLY BRACKET ORNAMENT 2 PARENTHESIS ORNAMENT 1 LEFT-POINTING ANGLE BRACKET
  ORNAMENT 1 MATHEMATICAL SPACE 1 RIGHT CURLY BRACKET ORNAMENT 2 PARENTHESIS ORNAMENT 1
  RIGHT-POINTING ANGLE BRACKET ORNAMENT 1 SALTIRE 1 SHADE 1 SIX POINTED BLACK STAR 2 SPOKED ASTERISK
  1 SMALL WHITE CIRCLE 1 THREE POINTED BLACK STAR 3 PINWHEEL STAR 1 VERTICAL BAR 1 WHITE CIRCLE 2
  SQUARE 0 MEETEI MAYEK AHANG KHUDAM 2 ANJI 2 APUN IYEK 2 CHEIKHAN 2 CHEIKHEI 2 DIGIT EIGHT 3 FIVE 3
  FOUR 3 NINE 3 ONE 3 SEVEN 3 SIX 3 THREE 3 TWO 3 ZERO 2 LETTER ATIYA 3 BA 3 BHAM 3 CHA 3 CHIL 3 DDA
  3 DDHA 3 DHOU 3 DIL 3 E 3 GHOU 3 GOK 3 HUK 3 I 4 LONSUM 3 JHAM 3 JIL 3 KHOU 3 KOK 4 LONSUM 3 LAI 4
  LONSUM 3 MIT 4 LONSUM 3 NA 4 LONSUM 3 NGOU 4 LONSUM 3 NNA 3 NYA 3 O 3 PA 4 LONSUM 3 PHAM 3 RAI 3
  SAM 3 SHA 3 SSA 3 THOU 3 TIL 4 LONSUM 3 TTA 3 TTHA 3 UN 3 WAI 3 YANG 2 LUM IYEK 2 SYLLABLE
  REPETITION MARK 2 VIRAMA 2 VOWEL SIGN AAI 4 AAU 4 ANAP 4 AU 4 CHEINAP 4 II 4 INAP 4 NUNG 4 ONAP 4
  SOUNAP 4 UNAP 4 UU 4 VISARGA 4 YENAP 2 WORD REPETITION MARK 0 MELON 0 MELTING FACE 0 MEMO 0 MENDE
  KIKAKUI COMBINING NUMBER HUNDRED THOUSANDS 4 HUNDREDS 4 MILLIONS 4 TEENS 4 TEN THOUSANDS 4 TENS 4
  THOUSANDS 2 DIGIT EIGHT 3 FIVE 3 FOUR 3 NINE 3 ONE 3 SEVEN 3 SIX 3 THREE 3 TWO 2 SYLLABLE M001 KI
  3 M002 KA 3 M003 KU 3 M004 WI 3 M005 WA 3 M006 WU 3 M007 MIN 3 M008 MAN 3 M009 MUN 3 M010 BI 3
  M011 BA 3 M012 BU 3 M013 I 3 M014 A 3 M015 U 3 M016 DI 3 M017 DA 3 M018 DU 3 M019 SI 3 M020 SA 3
  M021 SU 3 M022 TI 3 M023 TA 3 M024 TU 3 M025 LI 3 M026 LA 3 M027 LU 3 M028 JI 3 M029 JA 3 M030 JU
  3 M031 YI 3 M032 YA 3 M033 YU 3 M034 FI 3 M035 FA 3 M036 FU 3 M037 NIN 3 M038 NAN 3 M039 NUN 3
  M040 HEE 3 M041 HA 3 M042 HOO 3 M043 NGGA 3 M044 KPEE 3 M045 WO 3 M046 HUAN 3 M047 MBEE 3 M048 KO
  3 M049 WVA 3 M050 PU 3 M051 PE 3 M052 HEN 3 M053 HIN 3 M054 LOO 3 M055 TE 3 M056 GBA 3 M057 NGON 3
  M058 NYAN 3 M059 MEN 3 M060 NYON 3 M061 WVI 3 M062 MBA 3 M063 JO 3 M064 NDO 3 M065 KEE 3 M066 PO 3
  M067 NDOO 3 M068 PI 3 M069 TO 3 M070 GBO 3 M071 GBOO 3 M072 MBE 3 M073 LE 3 M074 KPU 3 M075 FE 3
  M076 KOO 3 M077 VO 3 M078 FEE 3 M079 SO 3 M080 YE 3 M081 PEE 3 M082 NGGU 3 M083 HEEI 3 M084 LEE 3
  M085 VE 3 M086 LONG NGGE 3 M087 HUN 3 M088 FO 3 M089 DEE 3 M090 NGGI 3 M091 TEE 3 M092 KPA 3 M093
  GBEE 3 M094 MON 3 M095 KE 3 M096 HE 3 M097 BE 3 M098 NYEN 3 M099 PA 3 M100 E 3 M101 FAN 3 M102 POO
  3 M103 BOO 3 M104 TOO 3 M105 LONG MBOO 3 M106 LONG NGGOO 3 M107 GBE 3 M108 KPE 3 M109 YEE 3 M110
  LONG LE 3 M111 GA 3 M112 KPOO 3 M113 JE 3 M114 WOO 3 M115 NGGEE 3 M116 SE 3 M117 NEN 3 M118 WE 3
  M119 NDE 3 M120 NGGO 3 M121 YO 3 M122 MBU 3 M123 NDI 3 M124 GBI 3 M125 NDU 3 M126 WEE 3 M127 NGGUA
  3 M128 HOOU 3 M129 NDA 3 M130 HAN 3 M131 IN 3 M132 KPI 3 M133 FOO 3 M134 NJOO 3 M135 IN 3 M136 SOO
  3 M137 EI 3 M138 BO 3 M139 WVE 3 M140 HO 3 M141 YOO 3 M142 LONG MBO 3 M143 WEI 3 M144 VOO 3 M145
  MBI 3 M146 NGGE 3 M147 O 3 M148 GBU 3 M149 NJEE 3 M150 BEE 3 M151 VU 3 M152 NJA 3 M153 LO 3 M154
  MUAN 3 M155 GI 3 M156 NGGOO 3 M157 JEE 3 M158 KPO 3 M159 NGGAA 3 M160 JOO 3 M161 LONG MBE 3 M162
  SEE 3 M163 EE 3 M164 NYIN 3 M165 OO 3 M166 GUEI 3 M167 GUAN 3 M168 GU 3 M169 NON 3 M170 NYUN 3
  M171 RA 3 M172 MBOO 3 M173 VEE 3 M174 MBO 3 M175 LONG JO 3 M176 HI 3 M177 NGUAN 3 M178 EN 3 M179
  KUA 3 M180 DOO 3 M181 DO 3 M182 VI 3 M183 LONG NGGO 3 M184 NGEN 3 M185 VA 3 M186 HU 3 M187 MBUU 3
  M188 MBEE 3 M189 MUEN 3 M190 GEE 3 M191 NDEE 3 M192 NJU 3 M193 HON 3 M194 WUI 3 M195 AN 3 M196 SIA
  3 M197 FUA 0 MENORAH WITH NINE BRANCHES 0 MENS SYMBOL 0 MERCURY 0 MEROITIC CURSIVE FRACTION EIGHT
  TWELFTHS 3 ELEVEN TWELFTHS 3 FIVE TWELFTHS 3 FOUR TWELFTHS 3 NINE TWELFTHS 3 ONE HALF 4 TWELFTH 3
  SEVEN TWELFTHS 3 SIX TWELFTHS 3 TEN TWELFTHS 3 THREE TWELFTHS 3 TWO TWELFTHS 2 LETTER A 3 ARCHAIC
  SA 3 BA 3 DA 3 E 3 HHA 3 I 3 KA 3 KHA 3 LA 3 MA 3 NA 3 NE 3 O 3 PA 3 QA 3 RA 3 SA 3 SE 3 TA 3 TE 3
  TO 3 WA 3 YA 2 LOGOGRAM IMN 3 RMT 2 NUMBER EIGHT 4 HUNDRED 5 THOUSAND 4 THOUSAND 3 EIGHTY THOUSAND
  3 FIFTY 4 THOUSAND 3 FIVE 4 HUNDRED 5 THOUSAND 4 THOUSAND 3 FORTY 4 THOUSAND 3 FOUR 4 HUNDRED 5
  THOUSAND 4 THOUSAND 3 NINE 4 HUNDRED 5 THOUSAND 4 THOUSAND 3 NINETY THOUSAND 3 ONE 4 HUNDRED 5
  THOUSAND 4 THOUSAND 3 SEVEN 4 HUNDRED 5 THOUSAND 4 THOUSAND 3 SEVENTY 4 THOUSAND 3 SIX 4 HUNDRED 5
  THOUSAND 4 THOUSAND 3 SIXTY 4 THOUSAND 3 TEN 4 THOUSAND 3 THIRTY 4 THOUSAND 3 THREE 4 HUNDRED 5
  THOUSAND 4 THOUSAND 3 TWENTY 4 THOUSAND 3 TWO 4 HUNDRED 5 THOUSAND 4 THOUSAND 1 HIEROGLYPHIC
  LETTER A 3 BA 3 BA-2 3 DA 3 E 3 HHA 3 I 3 KA 3 KHA 3 LA 3 MA 3 NA 3 NA-2 3 NE 3 NE-2 3 O 3 PA 3 QA
  3 RA 3 RA-2 3 SA 3 SA-2 3 SE 3 TA 3 TA-2 3 TE 3 TE-2 3 TO 3 WA 3 YA 2 SYMBOL VIDJ 3 VIDJ-2 0
  MERPERSON 0 MESSAGE WAITING 0 METRICAL BREVE 1 LONG OVER SHORT 3 TWO SHORTS 1 PENTASEME 1 SHORT
  OVER LONG 1 TETRASEME 1 TRISEME 1 TWO SHORTS JOINED 3 OVER LONG 0 METRO 0 MIAO LETTER AH 2 ARCHAIC
  MA 3 NA 3 NGA 3 ZZA 2 BA 2 BRI 2 DA 2 DDA 2 DLHA 2 DLHYA 2 DZA 2 DZHA 2 DZYI 2 DZZA 2 FA 2 GA 2
  GHA 2 GHHA 2 HA 2 HHA 2 KA 2 LA 2 LHA 2 LHYA 2 LYA 2 MA 2 MHA 2 NA 2 NASALIZATION 2 NGA 2 NGHA 2
  NHA 2 NNA 2 NNHA 2 NYA 2 NYHA 2 PA 2 PLA 2 QA 2 QGA 2 REFORMED TONE-1 3 TONE-2 3 TONE-4 3 TONE-5 3
  TONE-6 3 TONE-8 3 TSHA 2 RTE 2 SA 2 SHA 2 SSA 2 SYI 2 TA 2 TE 2 TLHA 2 TLHYA 2 TONE-2 2 TONE-3 2
  TONE-4 2 TONE-5 2 TONE-6 2 TONE-7 2 TONE-8 2 TSA 2 TSE 2 TSHA 2 TSSA 2 TTA 2 VA 2 VFA 2 WA 2 XA 2
  YI DZHA 3 KA 3 NNA 3 PA 3 TA 3 TSA 3 TSHA 3 TTA 2 ZA 2 ZHA 2 ZSA 2 ZSHA 2 ZZA 2 ZZSA 2 ZZSYA 2
  ZZYA 1 SIGN ASPIRATION 2 CONSONANT MODIFIER BAR 2 REFORMED ASPIRATION 3 VOICING 1 TONE ABOVE 2
  BELOW 2 RIGHT 2 TOP RIGHT 1 VOWEL SIGN A 3 AA 3 AE 3 AEE 3 AHH 3 AI 3 AN 3 ANG 3 AU 3 E 3 EA 3 EI
  3 EN 3 ENG 3 ER 3 ERR 3 I 3 IA 3 IAN 3 IANG 3 IE 3 IG 3 II 3 ING 3 IO 3 IONG 3 IU 3 N 3 NG 3 O 3
  OER 3 OEY 3 OG 3 OO 3 OU 3 ROUNDED ER 4 ERR 3 U 3 UA 3 UAN 3 UANG 3 UEI 3 UI 3 UNG 3 UOG 3 UU 3 VW
  3 W 3 WO 3 Y 3 YI 3 YUI 0 MICR DASH SYMBOL 1 ON US SYMBOL 0 MICRO SIGN 0 MICROBE 0 MICROPHONE 0
  MICROSCOPE 0 MIDDLE DOT 1 THIRD WHITE RIGHT POINTING INDEX 0 MIDLINE HORIZONTAL ELLIPSIS 0
  MILITARY HELMET 1 MEDAL 0 MILKY WAY 0 MILL SIGN 0 MINIBUS 0 MINIDISC 0 MINIMIZE 0 MINUS SIGN 2 IN
  TRIANGLE 2 WITH COMMA ABOVE 3 DOT BELOW 3 FALLING DOTS 3 RISING DOTS 1 TILDE 0 MINUS-OR-PLUS SIGN
  0 MINY 0 MMSP 0 MOBILE PHONE 2 OFF 2 WITH RIGHTWARDS ARROW AT LEFT 0 MODELS 0 MODERN PENTATHLON 0
  MODI ABBREVIATION SIGN 1 DANDA 1 DIGIT EIGHT 2 FIVE 2 FOUR 2 NINE 2 ONE 2 SEVEN 2 SIX 2 THREE 2
  TWO 2 ZERO 1 DOUBLE DANDA 1 LETTER A 2 AA 2 AI 2 AU 2 BA 2 BHA 2 CA 2 CHA 2 DA 2 DDA 2 DDHA 2 DHA
  2 E 2 GA 2 GHA 2 HA 2 I 2 II 2 JA 2 JHA 2 KA 2 KHA 2 LA 2 LLA 2 MA 2 NA 2 NGA 2 NNA 2 NYA 2 O 2 PA
  2 PHA 2 RA 2 SA 2 SHA 2 SSA 2 TA 2 THA 2 TTA 2 TTHA 2 U 2 UU 2 VA 2 VOCALIC L 3 LL 3 R 3 RR 2 YA 1
  SIGN ANUSVARA 2 ARDHACANDRA 2 HUVA 2 VIRAMA 2 VISARGA 1 VOWEL SIGN AA 3 AI 3 AU 3 E 3 I 3 II 3 O 3
  U 3 UU 3 VOCALIC L 4 LL 4 R 4 RR 0 MODIFIER BREVE WITH INVERTED BREVE 1 LETTER ACUTE ACCENT 2
  ALVEOLAR CLICK 2 APOSTROPHE 2 BEGIN HIGH TONE 3 LOW TONE 2 BILABIAL CLICK 2 CAPITAL A 3 AE 3 B 3
  BARRED B 3 C 3 D 3 E 3 F 3 G 3 H 4 WITH STROKE 3 I 3 J 3 K 3 L 3 M 3 N 3 O 3 OU 3 P 3 Q 3 R 3
  REVERSED E 4 N 3 T 3 U 3 V 3 W 2 CENTRED LEFT HALF RING 3 RIGHT HALF RING 2 CHINESE TONE YANG PING
  5 QU 5 RU 5 SHANG 4 YIN PING 5 QU 5 RU 5 SHANG 2 CIRCUMFLEX ACCENT 2 COLON 2 CROSS ACCENT 2
  CYRILLIC EN 3 HARD SIGN 3 SOFT SIGN 2 DENTAL CLICK 2 DOT HORIZONTAL BAR 3 SLASH 3 VERTICAL BAR 2
  DOUBLE APOSTROPHE 3 PRIME 2 DOWN ARROWHEAD 3 TACK 2 END HIGH TONE 3 LOW TONE 2 EXTRA-HIGH DOTTED
  LEFT-STEM TONE BAR 4 TONE BAR 3 LEFT-STEM TONE BAR 3 TONE BAR 2 EXTRA-LOW DOTTED LEFT-STEM TONE
  BAR 4 TONE BAR 3 LEFT-STEM TONE BAR 3 TONE BAR 2 GEORGIAN NAR 2 GLOTTAL STOP 4 WITH STROKE 2 GRAVE
  ACCENT 2 HALF TRIANGULAR COLON 2 HIGH DOTTED LEFT-STEM TONE BAR 4 TONE BAR 3 LEFT-STEM TONE BAR 3
  TONE BAR 2 LATERAL CLICK 2 LEFT ARROWHEAD 3 HALF RING 3 TACK 2 LOW ACUTE ACCENT 3 CIRCUMFLEX
  ACCENT 3 DOTTED LEFT-STEM TONE BAR 4 TONE BAR 3 DOWN ARROWHEAD 3 GRAVE ACCENT 3 INVERTED
  EXCLAMATION MARK 3 LEFT ARROW 4 ARROWHEAD 3 LEFT-STEM TONE BAR 3 MACRON 3 RIGHT ARROWHEAD 3 RING 3
  TILDE 3 TONE BAR 3 UP ARROWHEAD 3 VERTICAL LINE 2 LOWER RIGHT CORNER ANGLE 2 MACRON 2 MID DOTTED
  LEFT-STEM TONE BAR 4 TONE BAR 3 LEFT-STEM TONE BAR 3 TONE BAR 2 MIDDLE DOUBLE ACUTE ACCENT 4 GRAVE
  ACCENT 3 GRAVE ACCENT 2 MINUS SIGN 2 OPEN SHELF 2 PLUS SIGN 2 PRIME 2 RAISED COLON 3 DOWN ARROW 3
  EXCLAMATION MARK 3 INVERTED EXCLAMATION MARK 3 UP ARROW 2 RETROFLEX CLICK WITH RETROFLEX HOOK 2
  REVERSED COMMA 3 GLOTTAL STOP 5 WITH STROKE 2 RHOTIC HOOK 2 RIGHT ARROWHEAD 3 HALF RING 3 TACK 2
  SHELF 2 SHORT EQUALS SIGN 2 SMALL A 3 AE 3 AIN 3 ALPHA 3 B 4 WITH HOOK 3 BARRED O 3 BETA 3 BOTTOM
  HALF O 3 C 4 WITH CURL 3 CAPITAL AA 4 B 4 G 5 WITH HOOK 4 H 4 I 5 WITH STROKE 4 INVERTED R 4 L 5
  WITH BELT 4 N 4 OE 4 R 4 U 4 Y 3 CHI 3 CLOSED OMEGA 4 REVERSED OPEN E 3 D 4 WITH HOOK 6 AND TAIL 5
  TAIL 3 DELTA 3 DEZH DIGRAPH 3 DOTLESS J WITH STROKE 7 AND HOOK 3 DZ DIGRAPH 5 WITH CURL 6
  RETROFLEX HOOK 3 E 3 ENG 3 ESH 3 ETH 3 EZH 3 F 3 FENG DIGRAPH 3 G 4 WITH HOOK 3 GAMMA 3 GREEK
  GAMMA 4 PHI 3 H 4 WITH HOOK 5 STROKE 3 HENG 4 WITH HOOK 3 I WITH STROKE 3 IOTA 3 J 4 WITH
  CROSSED-TAIL 3 K 3 L 4 WITH BELT 5 INVERTED LAZY S 5 MIDDLE TILDE 5 PALATAL HOOK 5 RETROFLEX HOOK
  7 AND BELT 3 LEZH 4 WITH RETROFLEX HOOK 3 LIGATURE OE 3 LS DIGRAPH 3 LZ DIGRAPH 3 M 4 WITH HOOK 3
  N WITH LEFT HOOK 5 RETROFLEX HOOK 3 O 4 WITH STROKE 3 OPEN E 4 O 3 P 3 PHI 3 Q 3 R 4 WITH FISHHOOK
  5 TAIL 3 RAMS HORN 3 REVERSED E 4 GLOTTAL STOP 4 OPEN E 3 S 4 WITH CURL 5 HOOK 3 SCHWA 3 SCRIPT G
  3 SIDEWAYS U 3 T 4 WITH PALATAL HOOK 5 RETROFLEX HOOK 3 TC DIGRAPH WITH CURL 3 TESH DIGRAPH 3
  THETA 3 TOP HALF O 3 TS DIGRAPH 5 WITH RETROFLEX HOOK 3 TURNED A 4 AE 4 ALPHA 4 H 4 I 4 M 5 WITH
  LONG LEG 4 OPEN E 4 R 5 WITH HOOK 6 LONG LEG 8 AND RETROFLEX HOOK 4 V 4 W 4 Y 5 WITH BELT 3 U 4
  BAR 4 WITH LEFT HOOK 3 UPSILON 3 V 4 WITH HOOK 5 RIGHT HOOK 3 W 3 X 3 Y 3 Z 4 WITH CURL 5
  RETROFLEX HOOK 2 STRESS AND HIGH TONE 4 LOW TONE 2 SUPERSCRIPT HALF TRIANGULAR COLON 3 TRIANGULAR
  COLON 2 TRIANGULAR COLON 2 TURNED COMMA 2 UNASPIRATED 2 UP ARROWHEAD 3 TACK 2 US 2 VERTICAL LINE 2
  VOICING 2 YANG DEPARTING TONE MARK 2 YIN DEPARTING TONE MARK 0 MODULO TWO SUM 0 MONEY BAG 1 WITH
  WINGS 0 MONEY-MOUTH FACE 0 MONGOLIAN BIRGA 2 WITH DOUBLE ORNAMENT 3 ORNAMENT 1 COLON 1 COMMA 1
  DIGIT EIGHT 2 FIVE 2 FOUR 2 NINE 2 ONE 2 SEVEN 2 SIX 2 THREE 2 TWO 2 ZERO 1 DOUBLE BIRGA WITH
  ORNAMENT 1 ELLIPSIS 1 FOUR DOTS 1 FREE VARIATION SELECTOR FOUR 4 ONE 4 THREE 4 TWO 1 FULL STOP 1
  INVERTED BIRGA 3 WITH DOUBLE ORNAMENT 1 LETTER A 2 ALI GALI A 4 AH 4 ANUSVARA ONE 4 BALUDA 4 CA 4
  DA 4 DAGALGA 4 DAMARU 4 DDA 4 HALF U 5 YA 4 I 4 INVERTED UBADAMA 4 KA 4 NGA 4 NNA 4 PA 4 PHA 4 SSA
  4 TA 4 THREE BALUDA 4 TTA 4 TTHA 4 UBADAMA 4 VISARGA ONE 4 ZA 4 ZHA 2 ANG 2 BA 2 CHA 3 WITH TWO
  DOTS 2 CHI 2 DA 2 E 2 EE 2 FA 2 GA 2 HAA 2 I 2 JA 2 KA 2 KHA 2 LA 2 LHA 2 MA 2 MANCHU ALI GALI BHA
  5 CA 5 CYA 5 DDHA 5 DHA 5 GHA 5 JHA 5 LHA 5 NGA 5 SSA 5 TA 5 TTA 5 ZA 5 ZHA 3 FA 3 I 3 KA 3 RA 3
  ZHA 2 NA 2 O 2 OE 2 PA 2 QA 2 RA 2 SA 2 SHA 2 SIBE ANG 3 CHA 3 DA 3 E 3 FA 3 GA 3 GAA 3 HA 3 HAA 3
  I 3 IY 3 JA 3 KA 3 PA 3 RAA 3 SHA 3 TA 3 TSA 3 U 3 UE 3 ZA 3 ZHA 2 TA 2 TODO ALI GALI TA 5 ZHA 3
  ANG 3 BA 3 CHA 3 DA 3 DZA 3 E 3 GA 3 GAA 3 HAA 3 I 3 JA 3 JIA 3 KA 3 LONG VOWEL SIGN 3 MA 3 NIA 3
  O 3 OE 3 PA 3 QA 3 TA 3 TSA 3 U 3 UE 3 WA 3 YA 2 TSA 2 U 2 UE 2 WA 2 YA 2 ZA 2 ZHI 2 ZRA 1 MANCHU
  COMMA 2 FULL STOP 1 NIRUGU 1 ROTATED BIRGA 3 WITH DOUBLE ORNAMENT 4 ORNAMENT 1 SIBE SYLLABLE
  BOUNDARY MARKER 1 SWIRL BIRGA 3 WITH DOUBLE ORNAMENT 4 ORNAMENT 1 TODO SOFT HYPHEN 1 TRIPLE BIRGA
  WITH ORNAMENT 1 TURNED SWIRL BIRGA WITH DOUBLE ORNAMENT 1 VOWEL SEPARATOR 0 MONKEY 1 FACE 0
  MONOGRAM FOR EARTH 2 YANG 2 YIN 0 MONORAIL 0 MONOSTABLE SYMBOL 0 MOOD BUBBLE 0 MOON CAKE 1 VIEWING
  CEREMONY 0 MOSQUE 0 MOSQUITO 0 MOTHER CHRISTMAS 0 MOTOR BOAT 1 SCOOTER 0 MOTORIZED WHEELCHAIR 0
  MOTORWAY 0 MOUNT FUJI 0 MOUNTAIN 1 BICYCLIST 1 CABLEWAY 1 RAILWAY 0 MOUSE 1 FACE 1 TRAP 0 MOUTH 0
  MOVIE CAMERA 0 MOYAI 0 MRO DANDA 1 DIGIT EIGHT 2 FIVE 2 FOUR 2 NINE 2 ONE 2 SEVEN 2 SIX 2 THREE 2
  TWO 2 ZERO 1 DOUBLE DANDA 1 LETTER A 2 BA 2 CHU 2 DA 2 DAI 2 E 2 EA 2 HAI 2 HAO 2 KEAAE 2 KHAI 2
  KO 2 LA 2 LAN 2 MAEM 2 MIM 2 NGI 2 NIN 2 O 2 OL 2 OO 2 PA 2 PHI 2 RI 2 RO 2 SHI 2 TA 2 TEK 2 THEA
  2 WA 2 YO 0 MUCH GREATER-THAN 1 LESS-THAN 0 MULTANI LETTER A 2 BA 2 BHA 2 CA 2 CHA 2 DA 2 DDA 2
  DDDA 2 DDHA 2 DHA 2 E 2 GA 2 GHA 2 HA 2 I 2 JA 2 JJA 2 KA 2 KHA 2 LA 2 MA 2 NA 2 NNA 2 NYA 2 PA 2
  PHA 2 RA 2 RHA 2 RRA 2 SA 2 TA 2 THA 2 TTA 2 TTHA 2 U 2 VA 2 YA 1 SECTION MARK 0 MULTIMAP 0
  MULTIPLE MUSICAL NOTES 0 MULTIPLICATION SIGN 2 IN DOUBLE CIRCLE 3 LEFT HALF CIRCLE 3 RIGHT HALF
  CIRCLE 3 TRIANGLE 2 WITH DOT ABOVE 3 UNDERBAR 1 X 0 MULTISET 1 MULTIPLICATION 1 UNION 0 MUSHROOM 0
  MUSIC FLAT SIGN 1 NATURAL SIGN 1 SHARP SIGN 0 MUSICAL KEYBOARD 2 WITH JACKS 1 NOTE 1 SCORE 1
  SYMBOL ARPEGGIATO DOWN 3 UP 2 BEGIN BEAM 3 PHRASE 3 SLUR 3 TIE 2 BRACE 2 BRACKET 2 BREATH MARK 2
  BREVE 2 BREVIS 3 REST 2 C CLEF 2 CAESURA 2 CIRCLE X NOTEHEAD 2 CLIMACUS 2 CLIVIS 2 CLUSTER
  NOTEHEAD BLACK 4 WHITE 2 CODA 2 COMBINING ACCENT 3 ACCENT-STACCATO 3 AUGMENTATION DOT 3 BEND 3
  DOIT 3 DOUBLE TONGUE 3 DOWN BOW 3 FLAG-1 3 FLAG-2 3 FLAG-3 3 FLAG-4 3 FLAG-5 3 FLIP 3 HARMONIC 3
  LOURE 3 MARCATO 3 MARCATO-STACCATO 3 RIP 3 SMEAR 3 SNAP PIZZICATO 3 SPRECHGESANG STEM 3
  STACCATISSIMO 3 STACCATO 3 STEM 3 TENUTO 3 TREMOLO-1 3 TREMOLO-2 3 TREMOLO-3 3 TRIPLE TONGUE 3 UP
  BOW 2 COMMON TIME 2 CRESCENDO 2 CROIX 2 CUT TIME 2 DA CAPO 2 DAL SEGNO 2 DAMP 3 ALL 2 DASHED
  BARLINE 2 DECRESCENDO 2 DEGREE SLASH 2 DOUBLE BARLINE 3 FLAT 3 SHARP 2 DRUM CLEF-1 3 CLEF-2 2
  EIGHTH NOTE 3 REST 2 END BEAM 3 OF STIMME 3 PHRASE 3 SLUR 3 TIE 2 F CLEF 4 OTTAVA ALTA 5 BASSA 2
  FERMATA 3 BELOW 2 FINAL BARLINE 2 FINGERED TREMOLO-1 3 TREMOLO-2 3 TREMOLO-3 2 FIVE-LINE STAFF 2
  FLAT DOWN 3 UP 2 FORTE 2 FOUR-LINE STAFF 2 FOUR-STRING FRETBOARD 2 FUSA BLACK 3 WHITE 2 G CLEF 4
  OTTAVA ALTA 5 BASSA 2 GLISSANDO DOWN 3 UP 2 GRACE NOTE NO SLASH 4 SLASH 2 GREGORIAN C CLEF 3 F
  CLEF 2 HALF NOTE 3 PEDAL MARK 3 REST 2 HAUPTSTIMME 2 INVERTED TURN 2 KIEVAN C CLEF 3 EIGHTH NOTE
  STEM DOWN 6 UP 3 END OF PIECE 3 FINAL NOTE 3 FLAT SIGN 3 HALF NOTE 3 QUARTER NOTE STEM DOWN 6 UP 3
  RECITATIVE MARK 3 WHOLE NOTE 2 KORON 2 LEFT REPEAT SIGN 2 LONGA 3 IMPERFECTA REST 3 PERFECTA REST
  2 MAXIMA 2 MEZZO 2 MINIMA 3 BLACK 3 REST 2 MOON NOTEHEAD BLACK 4 WHITE 2 MULTI REST 2 MULTIPLE
  MEASURE REST 2 NATURAL DOWN 3 UP 2 NEBENSTIMME 2 NOTEHEAD BLACK 2 NULL NOTEHEAD 2 ONE HUNDRED
  TWENTY-EIGHTH NOTE 5 REST 2 ONE-LINE STAFF 2 ORNAMENT STROKE-1 3 STROKE-10 3 STROKE-11 3 STROKE-2
  3 STROKE-3 3 STROKE-4 3 STROKE-5 3 STROKE-6 3 STROKE-7 3 STROKE-8 3 STROKE-9 2 OTTAVA ALTA 3 BASSA
  2 PARENTHESIS NOTEHEAD 2 PEDAL MARK 3 UP MARK 2 PES SUBPUNCTIS 2 PIANO 2 PLUS NOTEHEAD 2 PODATUS 2
  PORRECTUS 3 FLEXUS 2 QUARTER NOTE 3 REST 3 TONE FLAT 4 SHARP 2 QUINDICESIMA ALTA 3 BASSA 2 REPEAT
  DOTS 2 REPEATED FIGURE-1 3 FIGURE-2 3 FIGURE-3 2 REVERSE FINAL BARLINE 2 RIGHT REPEAT SIGN 2
  RINFORZANDO 2 SCANDICUS 3 FLEXUS 2 SEGNO 2 SEMIBREVIS BLACK 3 REST 3 WHITE 2 SEMIMINIMA BLACK 3
  REST 3 WHITE 2 SHARP DOWN 3 UP 2 SHORT BARLINE 2 SINGLE BARLINE 2 SIX-LINE STAFF 2 SIX-STRING
  FRETBOARD 2 SIXTEENTH NOTE 3 REST 2 SIXTY-FOURTH NOTE 3 REST 2 SORI 2 SQUARE B 3 NOTEHEAD BLACK 4
  WHITE 2 SUBITO 2 TEMPUS IMPERFECTUM CUM PROLATIONE IMPERFECTA 7 DIMINUTION-1 7 DIMINUTION-2 7
  DIMINUTION-3 6 PERFECTA 3 PERFECTUM CUM PROLATIONE IMPERFECTA 6 PERFECTA 7 DIMINUTION-1 2
  THIRTY-SECOND NOTE 3 REST 2 THREE-LINE STAFF 2 TORCULUS 3 RESUPINUS 2 TR 2 TRIANGLE NOTEHEAD DOWN
  BLACK 5 WHITE 4 LEFT BLACK 5 WHITE 4 RIGHT BLACK 5 WHITE 4 UP BLACK 5 RIGHT BLACK 6 WHITE 5 WHITE
  2 TRIANGLE-ROUND NOTEHEAD DOWN BLACK 5 WHITE 2 TURN 3 SLASH 3 UP 2 TWO-LINE STAFF 2 VIRGA 2 VOID
  NOTEHEAD 2 WHOLE NOTE 3 REST 2 WITH FINGERNAILS 2 X NOTEHEAD 2 Z 0 MVS 0 MW 0 MYANMAR CONSONANT
  SIGN MEDIAL HA 4 RA 4 WA 4 YA 3 MON MEDIAL LA 5 MA 5 NA 3 SHAN MEDIAL WA 1 DIGIT EIGHT 2 FIVE 2
  FOUR 2 NINE 2 ONE 2 SEVEN 2 SIX 2 THREE 2 TWO 2 ZERO 1 LETTER A 2 AITON RA 2 AU 2 BA 2 BHA 2 CA 2
  CHA 2 DA 2 DDA 2 DDHA 2 DHA 2 E 2 EASTERN PWO KAREN GHWA 5 NNA 5 YWA 2 GA 2 GHA 2 GREAT SA 2 HA 2
  I 2 II 2 JA 2 JHA 2 KA 2 KHA 2 KHAMTI CA 3 CHA 3 DDA 3 DDHA 3 DHA 3 FA 3 GA 3 HA 3 HHA 3 JA 3 JHA
  3 LLA 3 NA 3 NYA 3 RA 3 SA 3 TTA 3 TTHA 3 XA 3 ZA 2 LA 2 LLA 2 MA 2 MON BBA 3 BBE 3 E 3 JHA 3 NGA
  2 NA 2 NGA 2 NNA 2 NNYA 2 NYA 2 O 2 PA 2 PHA 2 RA 2 RUMAI PALAUNG FA 2 SA 2 SGAW KAREN SHA 2 SHA 2
  SHAN A 3 BA 3 BHA 3 CA 3 CHA 3 DA 3 FA 3 GA 3 GHA 3 HA 3 JHA 3 KA 3 KHA 3 NA 3 NNA 3 NYA 3 PHA 3
  THA 3 ZA 2 SHWE PALAUNG CHA 4 SHA 2 SSA 2 TA 2 TAI LAING BA 4 BHA 4 DA 4 DDA 4 DDHA 4 DHA 4 FA 4
  GA 4 GHA 4 JA 4 JHA 4 LLA 4 NNA 4 NYA 2 THA 2 TTA 2 TTHA 2 U 2 UU 2 VOCALIC L 3 LL 3 R 3 RR 2 WA 2
  WESTERN PWO KAREN PWA 5 THA 2 YA 1 LOGOGRAM KHAMTI HM 3 OAY 3 QN 1 MODIFIER LETTER KHAMTI
  REDUPLICATION 3 SHAN REDUPLICATION 1 SHAN DIGIT EIGHT 3 FIVE 3 FOUR 3 NINE 3 ONE 3 SEVEN 3 SIX 3
  THREE 3 TWO 3 ZERO 1 SIGN ANUSVARA 2 ASAT 2 DOT BELOW 2 KHAMTI TONE-1 3 TONE-3 2 LITTLE SECTION 2
  PAO KAREN TONE 2 RUMAI PALAUNG TONE-5 2 SECTION 2 SHAN COUNCIL EMPHATIC TONE 4 TONE-2 4 TONE-3 3
  SAW 3 TONE-2 3 TONE-3 3 TONE-5 3 TONE-6 2 TAI LAING TONE-2 4 TONE-5 2 VIRAMA 2 VISARGA 2 WESTERN
  PWO KAREN TONE-1 5 TONE-2 5 TONE-3 5 TONE-4 5 TONE-5 1 SYMBOL AFOREMENTIONED 2 AITON EXCLAMATION 3
  ONE 3 TWO 2 COMPLETED 2 GENITIVE 2 LOCATIVE 2 SHAN EXCLAMATION 3 ONE 1 TAI LAING DIGIT EIGHT 4
  FIVE 4 FOUR 4 NINE 4 ONE 4 SEVEN 4 SIX 4 THREE 4 TWO 4 ZERO 1 TONE MARK SGAW KAREN HATHI 5 KE PHO
  1 VOWEL SIGN AA 3 AI 3 AITON A 4 AI 3 E 4 ABOVE 3 GEBA KAREN I 3 I 3 II 3 KAYAH EE 4 OE 4 U 3 MON
  II 4 O 3 SGAW KAREN EU 3 SHAN AA 4 E 5 ABOVE 4 FINAL Y 3 TALL AA 3 U 3 UU 3 VOCALIC L 4 LL 4 R 4
  RR 3 WESTERN PWO KAREN EU 6 UE 0 N-ARY CIRCLED DOT OPERATOR 2 PLUS OPERATOR 2 TIMES OPERATOR 1
  COPRODUCT 1 INTERSECTION 1 LOGICAL AND 2 OR 1 PRODUCT 1 SQUARE INTERSECTION OPERATOR 2 UNION
  OPERATOR 1 SUMMATION 1 TIMES OPERATOR 1 UNION 2 OPERATOR WITH DOT 4 PLUS 1 WHITE VERTICAL BAR 0
  NABATAEAN CRUCIFORM NUMBER FOUR 1 LETTER ALEPH 2 AYIN 2 BETH 2 DALETH 2 FINAL ALEPH 3 BETH 3 HE 3
  KAPH 3 LAMEDH 3 MEM 3 NUN 3 SHIN 3 YODH 2 GIMEL 2 HE 2 HETH 2 KAPH 2 LAMEDH 2 MEM 2 NUN 2 PE 2
  QOPH 2 RESH 2 SADHE 2 SAMEKH 2 SHIN 2 TAW 2 TETH 2 WAW 2 YODH 2 ZAYIN 1 NUMBER FIVE 2 FOUR 2 ONE 3
  HUNDRED 2 TEN 2 THREE 2 TWENTY 2 TWO 0 NABLA 0 NAIL POLISH 0 NAIRA SIGN 0 NAK 0 NAME BADGE 0 NAND
  0 NANDINAGARI HEADSTROKE 1 LETTER A 2 AA 2 AI 2 AU 2 BA 2 BHA 2 CA 2 CHA 2 DA 2 DDA 2 DDHA 2 DHA 2
  E 2 GA 2 GHA 2 HA 2 I 2 II 2 JA 2 JHA 2 KA 2 KHA 2 LA 2 LLA 2 MA 2 NA 2 NGA 2 NNA 2 NYA 2 O 2 PA 2
  PHA 2 RA 2 RRA 2 SA 2 SHA 2 SSA 2 TA 2 THA 2 TTA 2 TTHA 2 U 2 UU 2 VA 2 VOCALIC R 3 RR 2 YA 1 SIGN
  ANUSVARA 2 AVAGRAHA 2 SIDDHAM 2 VIRAMA 2 VISARGA 1 VOWEL SIGN AA 3 AI 3 AU 3 E 3 I 3 II 3 O 3
  PRISHTHAMATRA E 3 U 3 UU 3 VOCALIC R 4 RR 0 NARROW NO-BREAK SPACE 0 NATIONAL DIGIT SHAPES 1 PARK 0
  NAUSEATED FACE 0 NAZAR AMULET 0 NBH 0 NBSP 0 NECKTIE 0 NEGATED DOUBLE VERTICAL BAR DOUBLE RIGHT
  TURNSTILE 0 NEGATIVE ACKNOWLEDGE 1 CIRCLED DIGIT ZERO 2 LATIN CAPITAL LETTER A 5 B 5 C 5 D 5 E 5 F
  5 G 5 H 5 I 5 J 5 K 5 L 5 M 5 N 5 O 5 P 5 Q 5 R 5 S 5 T 5 U 5 V 5 W 5 X 5 Y 5 Z 2 NUMBER EIGHTEEN
  3 ELEVEN 3 FIFTEEN 3 FOURTEEN 3 NINETEEN 3 SEVENTEEN 3 SIXTEEN 3 THIRTEEN 3 TWELVE 3 TWENTY 2
  SQUARE 2 TRIANGLE 1 DIAGONAL CROSS 2 DIAMOND 2 MIDDLE RIGHT TO LOWER CENTRE 1 SQUARED AB 2 CROSS
  MARK 2 IC 2 LATIN CAPITAL LETTER A 5 B 5 C 5 D 5 E 5 F 5 G 5 H 5 I 5 J 5 K 5 L 5 M 5 N 5 O 5 P 5 Q
  5 R 5 S 5 T 5 U 5 V 5 W 5 X 5 Y 5 Z 2 PA 2 QUESTION MARK 2 SA 2 WC 0 NEITHER A SUBSET OF NOR EQUAL
  TO 2 SUPERSET OF NOR EQUAL TO 1 APPROXIMATELY NOR ACTUALLY EQUAL TO 1 GREATER-THAN NOR EQUAL TO 3
  EQUIVALENT TO 3 LESS-THAN 1 LESS-THAN NOR EQUAL TO 3 EQUIVALENT TO 3 GREATER-THAN 0 NEL 0 NEPTUNE
  1 FORM TWO 0 NERD FACE 0 NESSUS 0 NEST WITH EGGS 0 NESTING DOLLS 0 NEUTER 0 NEUTRAL CHESS BISHOP 3
  ROTATED NINETY DEGREES 4 TWO HUNDRED SEVENTY DEGREES 2 EQUIHOPPER 3 ROTATED NINETY DEGREES 2 KING
  3 ROTATED NINETY DEGREES 4 TWO HUNDRED SEVENTY DEGREES 2 KNIGHT 3 ROTATED FORTY-FIVE DEGREES 4
  NINETY DEGREES 4 ONE HUNDRED THIRTY-FIVE DEGREES 4 THREE HUNDRED FIFTEEN DEGREES 4 TWO HUNDRED
  SEVENTY DEGREES 6 TWENTY-FIVE DEGREES 2 PAWN 3 ROTATED NINETY DEGREES 4 TWO HUNDRED SEVENTY
  DEGREES 2 QUEEN 3 ROTATED NINETY DEGREES 4 TWO HUNDRED SEVENTY DEGREES 2 ROOK 3 ROTATED NINETY
  DEGREES 4 TWO HUNDRED SEVENTY DEGREES 2 TURNED BISHOP 3 KING 3 KNIGHT 3 PAWN 3 QUEEN 3 ROOK 1 FACE
  0 NEW LINE 1 MOON SYMBOL 2 WITH FACE 1 SHEQEL SIGN 1 TAI LUE DIGIT EIGHT 4 FIVE 4 FOUR 4 NINE 4
  ONE 4 SEVEN 4 SIX 4 THREE 4 TWO 4 ZERO 3 LETTER FINAL B 5 D 5 K 5 M 5 N 5 NG 5 V 4 HIGH BA 5 DA 5
  FA 5 HA 5 KA 5 KVA 5 LA 5 MA 5 NA 5 NGA 5 PA 5 PHA 5 QA 5 SA 5 SUA 5 TA 5 THA 5 TSA 5 VA 5 XA 5
  XVA 5 YA 4 LOW BA 5 DA 5 FA 5 HA 5 KA 5 KVA 5 LA 5 MA 5 NA 5 NGA 5 PA 5 PHA 5 QA 5 SA 5 SUA 5 TA 5
  THA 5 TSA 5 VA 5 XA 5 XVA 5 YA 3 SIGN LAE 4 LAEV 3 THAM DIGIT ONE 3 TONE MARK-1 4 MARK-2 3 VOWEL
  SIGN AA 5 AAY 5 AE 5 AY 5 E 5 II 5 IY 5 O 5 OA 5 OAY 5 OY 5 U 5 UE 5 UEY 5 UU 5 UY 5 VOWEL
  SHORTENER 0 NEWA ABBREVIATION SIGN 1 COMMA 1 DANDA 1 DIGIT EIGHT 2 FIVE 2 FOUR 2 NINE 2 ONE 2
  SEVEN 2 SIX 2 THREE 2 TWO 2 ZERO 1 DOUBLE COMMA 2 DANDA 1 GAP FILLER 1 INSERTION SIGN 1 LETTER A 2
  AA 2 AI 2 AU 2 BA 2 BHA 2 CA 2 CHA 2 DA 2 DDA 2 DDHA 2 DHA 2 E 2 GA 2 GHA 2 HA 2 I 2 II 2 JA 2 JHA
  2 KA 2 KHA 2 LA 2 LHA 2 MA 2 MHA 2 NA 2 NGA 2 NGHA 2 NHA 2 NNA 2 NYA 2 NYHA 2 O 2 PA 2 PHA 2 RA 2
  RHA 2 SA 2 SHA 2 SSA 2 TA 2 THA 2 TTA 2 TTHA 2 U 2 UU 2 VEDIC ANUSVARA 2 VOCALIC L 3 LL 3 R 3 RR 2
  WA 2 YA 1 OM 1 PLACEHOLDER MARK 1 SANDHI MARK 1 SIDDHI 1 SIGN ANUSVARA 2 AVAGRAHA 2 CANDRABINDU 2
  FINAL ANUSVARA 2 JIHVAMULIYA 2 NUKTA 2 UPADHMANIYA 2 VIRAMA 2 VISARGA 1 VOWEL SIGN AA 3 AI 3 AU 3
  E 3 I 3 II 3 O 3 U 3 UU 3 VOCALIC L 4 LL 4 R 4 RR 0 NEWLINE LEFT 1 RIGHT 0 NEWSPAPER 0 NEXT LINE 1
  PAGE 0 NIGHT WITH STARS 0 NINJA 0 NKO COMBINING DOUBLE DOT ABOVE 2 LONG DESCENDING TONE 3 HIGH
  TONE 3 LOW TONE 3 RISING TONE 2 NASALIZATION MARK 2 SHORT HIGH TONE 3 LOW TONE 3 RISING TONE 1
  COMMA 1 DANTAYALAN 1 DIGIT EIGHT 2 FIVE 2 FOUR 2 NINE 2 ONE 2 SEVEN 2 SIX 2 THREE 2 TWO 2 ZERO 1
  DOROME SIGN 1 EXCLAMATION MARK 1 HIGH TONE APOSTROPHE 1 LAJANYALAN 1 LETTER A 2 BA 2 CHA 2 DA 2
  DAGBASINNA 2 E 2 EE 2 FA 2 GBA 2 HA 2 I 2 JA 2 JONA CHA 3 JA 3 RA 2 KA 2 LA 2 MA 2 N 2 NA 3 WOLOSO
  2 NYA 3 WOLOSO 2 O 2 OO 2 PA 2 RA 2 RRA 2 SA 2 TA 2 U 2 WA 2 YA 1 LOW TONE APOSTROPHE 1 SYMBOL
  GBAKURUNEN 2 OO DENNEN 1 TAMAN SIGN 0 NL 0 NNBSP 0 NO BICYCLES 1 BREAK HERE 1 ENTRY 2 SIGN 1
  MOBILE PHONES 1 ONE UNDER EIGHTEEN SYMBOL 1 PEDESTRIANS 1 PIRACY 1 SMOKING SYMBOL 0 NO-BREAK SPACE
  0 NOMINAL DIGIT SHAPES 0 NOMISMA SIGN 0 NON-BREAKING HYPHEN 0 NON-POTABLE WATER SYMBOL 0
  NONFORKING 0 NOR 0 NORDIC MARK SIGN 0 NORMAL SUBGROUP OF 3 OR EQUAL TO 0 NORTH EAST AND SOUTH WEST
  ARROW 2 ARROW 3 AND SOUTH EAST ARROW 3 CROSSING NORTH WEST ARROW 4 SOUTH EAST ARROW 3 WITH HOOK 2
  BLACK ARROW 2 DOUBLE ARROW 2 POINTING BUD 3 LEAF 3 VINE LEAF 2 SANS-SERIF ARROW 2 TRIANGLE-HEADED
  ARROW 4 TO BAR 2 WHITE ARROW 1 INDIC FRACTION ONE EIGHTH 4 HALF 4 QUARTER 4 SIXTEENTH 3 THREE
  QUARTERS 4 SIXTEENTHS 2 PLACEHOLDER MARK 2 QUANTITY MARK 2 QUARTER MARK 2 RUPEE MARK 1 WEST AND
  SOUTH EAST ARROW 2 ARROW 3 AND NORTH EAST ARROW 3 CROSSING NORTH EAST ARROW 3 TO CORNER 4 LONG BAR
  3 WITH HOOK 2 BLACK ARROW 2 DOUBLE ARROW 2 POINTING BUD 3 LEAF 3 VINE LEAF 2 SANS-SERIF ARROW 2
  TRIANGLE-HEADED ARROW 4 TO BAR 2 WHITE ARROW 0 NORTHEAST-POINTING AIRPLANE 0 NOSE 0 NOT A SUBSET
  OF 2 SUPERSET OF 1 ALMOST EQUAL TO 1 AN ELEMENT OF 1 ASYMPTOTICALLY EQUAL TO 1 CHECK MARK 1 EQUAL
  TO 1 EQUIVALENT TO 1 GREATER-THAN 1 IDENTICAL TO 1 LESS-THAN 1 NORMAL SUBGROUP OF 4 OR EQUAL TO 1
  PARALLEL TO 1 SIGN 1 SQUARE IMAGE OF OR EQUAL TO 1 TILDE 1 TRUE 0 NOTCHED LEFT SEMICIRCLE WITH
  THREE DOTS 1 LOWER RIGHT-SHADOWED WHITE RIGHTWARDS ARROW 1 RIGHT SEMICIRCLE WITH THREE DOTS 1
  UPPER RIGHT-SHADOWED WHITE RIGHTWARDS ARROW 0 NOTE 1 PAD 1 PAGE 0 NOTEBOOK 1 WITH DECORATIVE COVER
  0 NUL 0 NULL 0 NUMBER EIGHTEEN FULL STOP 1 ELEVEN FULL STOP 1 FIFTEEN FULL STOP 1 FOURTEEN FULL
  STOP 1 NINETEEN FULL STOP 1 SEVENTEEN FULL STOP 1 SIGN 1 SIXTEEN FULL STOP 1 TEN FULL STOP 1
  THIRTEEN FULL STOP 1 TWELVE FULL STOP 1 TWENTY FULL STOP 0 NUMERO SIGN 0 NUSHU ITERATION MARK 0
  NUT AND BOLT 0 NYIAKENG PUACHUE HMONG CIRCLED CA 3 DIGIT EIGHT 4 FIVE 4 FOUR 4 NINE 4 ONE 4 SEVEN
  4 SIX 4 THREE 4 TWO 4 ZERO 3 LETTER A 4 AA 4 CA 4 DA 4 DLA 4 E 4 EE 4 FA 4 GA 4 HA 4 HAH 4 I 4 KA
  4 LA 4 MA 4 MLA 4 NA 4 NCA 4 NKA 4 NPA 4 NPLA 4 NQA 4 NRA 4 NTA 4 NTSA 4 NTXA 4 NYA 4 O 4 OO 4 PA
  4 PLA 4 QA 4 RA 4 RRA 4 SA 4 TA 4 TSA 4 TXA 4 U 4 VA 4 W 4 XA 4 XYA 4 YA 4 ZA 3 LOGOGRAM NYAJ 3
  SIGN FOR ANIMAL 5 INVERTEBRATE 5 LOCATION 5 PERSON 5 THING 4 XW XW 3 SYLLABLE LENGTHENER 3 TONE-B
  3 TONE-D 3 TONE-G 3 TONE-J 3 TONE-M 3 TONE-S 3 TONE-V 0 OBJECT REPLACEMENT CHARACTER 0 OBLIQUE
  ANGLE OPENING DOWN 3 UP 1 HYPHEN 0 OBSERVER EYE SYMBOL 0 OCR AMOUNT OF CHECK 1 BELT BUCKLE 1 BOW
  TIE 1 BRANCH BANK IDENTIFICATION 1 CHAIR 1 CUSTOMER ACCOUNT NUMBER 1 DASH 1 DOUBLE BACKSLASH 1
  FORK 1 HOOK 1 INVERTED FORK 0 OCTAGONAL SIGN 0 OCTOPUS 0 ODEN 0 OFFICE BUILDING 0 OGHAM FEATHER
  MARK 1 LETTER AILM 2 BEITH 2 CEIRT 2 COLL 2 DAIR 2 EABHADH 2 EADHADH 2 EAMHANCHOLL 2 FEARN 2 GORT
  2 IFIN 2 IODHADH 2 LUIS 2 MUIN 2 NGEADAL 2 NION 2 ONN 2 OR 2 PEITH 2 RUIS 2 SAIL 2 STRAIF 2 TINNE
  2 UATH 2 UILLEANN 2 UR 1 REVERSED FEATHER MARK 1 SPACE MARK 0 OGONEK 0 OHM SIGN 0 OIL DRUM 0 OK
  HAND SIGN 0 OL CHIKI AHAD 2 DIGIT EIGHT 3 FIVE 3 FOUR 3 NINE 3 ONE 3 SEVEN 3 SIX 3 THREE 3 TWO 3
  ZERO 2 GAAHLAA TTUDDAAG 2 LETTER AAJ 3 AAK 3 AAM 3 AAW 3 AG 3 AL 3 ANG 3 AT 3 EDD 3 EN 3 EP 3 ERR
  3 IH 3 INY 3 IR 3 IS 3 LA 3 LAA 3 LE 3 LI 3 LO 3 LU 3 OB 3 OH 3 OTT 3 OV 3 UC 3 UD 3 UNN 3 UY 2 MU
  TTUDDAG 2 MU-GAAHLAA TTUDDAAG 2 PHAARKAA 2 PUNCTUATION DOUBLE MUCAAD 3 MUCAAD 2 RELAA 0 OLD
  CHINESE HOOK MARK 2 ITERATION MARK 1 HUNGARIAN CAPITAL LETTER A 4 AA 4 AK 4 AMB 4 AND 4 CLOSE E 4
  E 4 EB 4 EC 4 ECH 4 ECS 4 ED 4 EE 4 EF 4 EG 4 EGY 4 EH 4 EJ 4 EK 4 EL 4 ELY 4 EM 4 EMP 4 EN 4 ENC
  4 ENT 4 ENT-SHAPED SIGN 4 ENY 4 EP 4 ER 4 ES 4 ESZ 4 ET 4 ETY 4 EV 4 EZ 4 EZS 4 I 4 II 4
  NIKOLSBURG OE 5 UE 4 O 4 OEE 4 OO 4 RUDIMENTA OE 5 UE 4 SHORT ER 4 U 4 UNK 4 US 4 UU 2 NUMBER
  FIFTY 3 FIVE 3 ONE 4 HUNDRED 4 THOUSAND 3 TEN 2 SMALL LETTER A 4 AA 4 AK 4 AMB 4 AND 4 CLOSE E 4 E
  4 EB 4 EC 4 ECH 4 ECS 4 ED 4 EE 4 EF 4 EG 4 EGY 4 EH 4 EJ 4 EK 4 EL 4 ELY 4 EM 4 EMP 4 EN 4 ENC 4
  ENT 4 ENT-SHAPED SIGN 4 ENY 4 EP 4 ER 4 ES 4 ESZ 4 ET 4 ETY 4 EV 4 EZ 4 EZS 4 I 4 II 4 NIKOLSBURG
  OE 5 UE 4 O 4 OEE 4 OO 4 RUDIMENTA OE 5 UE 4 SHORT ER 4 U 4 UNK 4 US 4 UU 1 ITALIC LETTER A 3 BE 3
  CHE 3 DE 3 E 3 EF 3 EKS 3 EL 3 EM 3 EN 3 ER 3 ERS 3 ES 3 ESH 3 ESS 3 HE 3 I 3 II 3 KA 3 KE 3 KHE 3
  KU 3 NORTHERN TSE 3 O 3 PE 3 PHE 3 SHE 3 SOUTHERN TSE 3 TE 3 THE 3 U 3 UU 3 VE 3 YE 3 ZE 2 NUMERAL
  FIFTY 3 FIVE 3 ONE 3 TEN 1 KEY 1 NORTH ARABIAN LETTER AIN 4 ALEF 4 BEH 4 DAD 4 DAL 4 ES-1 4 ES-2 4
  ES-3 4 FEH 4 GEEM 4 GHAIN 4 HAH 4 HEH 4 KAF 4 KHAH 4 LAM 4 MEEM 4 NOON 4 QAF 4 REH 4 SAD 4 TAH 4
  TEH 4 THAL 4 THEH 4 WAW 4 YEH 4 ZAH 4 ZAIN 3 NUMBER ONE 4 TEN 4 TWENTY 1 PERMIC LETTER AN 3 BUR 3
  CHERY 3 DOI 3 DZHOI 3 DZITA 3 E 3 EF 3 GAI 3 HA 3 I 3 IA 3 IE 3 KOKE 3 LEI 3 MENOE 3 NENOE 3 O 3
  OO 3 PEEI 3 REI 3 SHCHOOI 3 SHOOI 3 SII 3 TAI 3 TSIU 3 U 3 VER 3 VOOI 3 YA 3 YAT 3 YER 3 YERI 3
  YERU 3 YRY 3 YU 3 ZATA 3 ZHOI 1 PERSIAN NUMBER HUNDRED 3 ONE 3 TEN 3 TWENTY 3 TWO 2 SIGN A 3
  AURAMAZDAA 3 AURAMAZDAA-2 3 AURAMAZDAAHA 3 BA 3 BAGA 3 BUUMISH 3 CA 3 DA 3 DAHYAAUSH 3 DAHYAAUSH-2
  3 DI 3 DU 3 FA 3 GA 3 GU 3 HA 3 I 3 JA 3 JI 3 KA 3 KU 3 LA 3 MA 3 MI 3 MU 3 NA 3 NU 3 PA 3 RA 3 RU
  3 SA 3 SHA 3 SSA 3 TA 3 THA 3 TU 3 U 3 VA 3 VI 3 XA 3 XSHAAYATHIYA 3 YA 3 ZA 2 WORD DIVIDER 1
  PERSONAL COMPUTER 1 SOGDIAN FRACTION ONE HALF 2 LETTER ALEPH 3 ALTERNATE AYIN 3 AYIN 3 BETH 3
  FINAL ALEPH 4 BETH 4 HE 4 NUN 5 WITH VERTICAL TAIL 4 SADHE 5 WITH VERTICAL TAIL 4 TAW 5 WITH
  VERTICAL TAIL 3 GIMEL 3 HE 3 HETH 3 KAPH 3 LAMEDH 3 MEM 3 NUN 3 PE 3 RESH-AYIN-DALETH 3 SADHE 3
  SAMEKH 3 SHIN 3 TAW 3 WAW 3 YODH 3 ZAYIN 2 LIGATURE AYIN-DALETH 2 NUMBER FIVE 3 FOUR 3 ONE 4
  HUNDRED 3 TEN 3 THIRTY 3 THREE 3 TWENTY 3 TWO 1 SOUTH ARABIAN LETTER ALEF 4 AYN 4 BETH 4 DALETH 4
  DHADHE 4 DHALETH 4 FE 4 GHAYN 4 GIMEL 4 HE 4 HETH 4 KAPH 4 KHETH 4 LAMEDH 4 MEM 4 NUN 4 QOPH 4
  RESH 4 SADHE 4 SAMEKH 4 SAT 4 SHIN 4 TAW 4 TETH 4 THAW 4 THETH 4 WAW 4 YODH 4 ZAYN 3 NUMBER FIFTY
  4 ONE 3 NUMERIC INDICATOR 1 TURKIC LETTER ORKHON A 4 AB 4 AD 4 AEB 4 AED 4 AEG 4 AEK 4 AEL 4 AEN 4
  AER 4 AES 4 AET 4 AEY 4 AG 4 AL 4 AN 4 AQ 4 AR 4 AS 4 ASH 4 AT 4 AY 4 BASH 4 EC 4 ELT 4 EM 4 ENC 4
  ENG 4 ENT 4 ENY 4 EP 4 ESH 4 EZ 4 I 4 IC 4 IQ 4 O 4 OE 4 OEK 4 OP 4 OQ 4 OT 3 YENISEI A 4 AB 4 AD
  4 AE 4 AEB 4 AEG 4 AEK 4 AEN 4 AENG 4 AET 4 AEY 4 AG 4 AL 4 ANG 4 AQ 4 AR 4 ASH 4 AT 4 AY 4 E 4 EC
  4 ENC 4 ENT 4 ENY 4 ESH 4 EZ 4 I 4 IQ 4 OE 4 OEK 4 OQ 1 UYGHUR COMBINING DOT ABOVE 4 BELOW 3 TWO
  DOTS ABOVE 5 BELOW 2 LETTER ALEPH 3 BETH 3 FINAL HETH 3 GIMEL-HETH 3 KAPH 3 LAMEDH 3 LESH 3 MEM 3
  NUN 3 PE 3 RESH 3 SADHE 3 SAMEKH 3 SHIN 3 TAW 3 WAW 3 YODH 3 ZAYIN 2 PUNCTUATION BAR 3 FOUR DOTS 3
  TWO BARS 4 DOTS 0 OLDER ADULT 1 MAN 1 WOMAN 0 OLIVE 0 OM SYMBOL 0 ON WITH EXCLAMATION MARK WITH
  LEFT RIGHT ARROW ABOVE 0 ONCOMING AUTOMOBILE 1 BUS 1 FIRE ENGINE 1 POLICE CAR 1 TAXI 0 ONE BUTTON
  MOUSE 1 DOT LEADER 2 OVER TWO DOTS PUNCTUATION 0 ONE-PIECE SWIMSUIT 0 ONION 0 OPEN BOOK 1 BOX 1
  CENTRE ASTERISK 2 BLACK STAR 2 CROSS 2 TEARDROP-SPOKED ASTERISK 1 FILE FOLDER 1 FOLDER 1 HANDS
  SIGN 1 LOCK 1 MAILBOX WITH LOWERED FLAG 3 RAISED FLAG 1 SUBSET 1 SUPERSET 0 OPEN-CIRCUIT-OUTPUT
  H-TYPE SYMBOL 1 L-TYPE SYMBOL 0 OPEN-OUTLINED RIGHTWARDS ARROW 0 OPERATING SYSTEM COMMAND 0
  OPHIUCHUS 0 OPPOSITION 0 OPTICAL DISC 2 ICON 0 OPTION KEY 0 OR WITH DOT INSIDE 0 ORANGE BOOK 1
  HEART 0 ORANGUTAN 0 ORIYA AI LENGTH MARK 1 AU LENGTH MARK 1 DIGIT EIGHT 2 FIVE 2 FOUR 2 NINE 2 ONE
  2 SEVEN 2 SIX 2 THREE 2 TWO 2 ZERO 1 FRACTION ONE EIGHTH 3 HALF 3 QUARTER 3 SIXTEENTH 2 THREE
  QUARTERS 3 SIXTEENTHS 1 ISSHAR 1 LETTER A 2 AA 2 AI 2 AU 2 BA 2 BHA 2 CA 2 CHA 2 DA 2 DDA 2 DDHA 2
  DHA 2 E 2 GA 2 GHA 2 HA 2 I 2 II 2 JA 2 JHA 2 KA 2 KHA 2 LA 2 LLA 2 MA 2 NA 2 NGA 2 NNA 2 NYA 2 O
  2 PA 2 PHA 2 RA 2 RHA 2 RRA 2 SA 2 SHA 2 SSA 2 TA 2 THA 2 TTA 2 TTHA 2 U 2 UU 2 VA 2 VOCALIC L 3
  LL 3 R 3 RR 2 WA 2 YA 2 YYA 1 SIGN ANUSVARA 2 AVAGRAHA 2 CANDRABINDU 2 NUKTA 2 OVERLINE 2 VIRAMA 2
  VISARGA 1 VOWEL SIGN AA 3 AI 3 AU 3 E 3 I 3 II 3 O 3 U 3 UU 3 VOCALIC L 4 LL 4 R 4 RR 0 ORNATE
  LEFT PARENTHESIS 1 RIGHT PARENTHESIS 0 ORTHODOX CROSS 0 OSAGE CAPITAL LETTER A 3 AH 3 AI 3 AIN 3
  BRA 3 CHA 3 DHA 3 E 3 EHCHA 3 EHKA 3 EHPA 3 EHTA 3 EHTSA 3 EIN 3 GHA 3 HA 3 HYA 3 I 3 KA 3 KHA 3
  KYA 3 LA 3 MA 3 NA 3 O 3 OIN 3 PA 3 SA 3 SHA 3 TA 3 TSA 3 TSHA 3 U 3 WA 3 ZA 3 ZHA 1 SMALL LETTER
  A 3 AH 3 AI 3 AIN 3 BRA 3 CHA 3 DHA 3 E 3 EHCHA 3 EHKA 3 EHPA 3 EHTA 3 EHTSA 3 EIN 3 GHA 3 HA 3
  HYA 3 I 3 KA 3 KHA 3 KYA 3 LA 3 MA 3 NA 3 O 3 OIN 3 PA 3 SA 3 SHA 3 TA 3 TSA 3 TSHA 3 U 3 WA 3 ZA
  3 ZHA 0 OSC 0 OSMANYA DIGIT EIGHT 2 FIVE 2 FOUR 2 NINE 2 ONE 2 SEVEN 2 SIX 2 THREE 2 TWO 2 ZERO 1
  LETTER A 2 AA 2 ALEF 2 BA 2 CAYN 2 DEEL 2 DHA 2 E 2 EE 2 FA 2 GA 2 HA 2 I 2 JA 2 KAAF 2 KHA 2 LAAN
  2 MIIN 2 NUUN 2 O 2 OO 2 QAAF 2 RA 2 SA 2 SHIIN 2 TA 2 U 2 WAW 2 XA 2 YA 0 OTTER 0 OTTOMAN SIYAQ
  ALTERNATE NUMBER EIGHT 4 FIVE 4 FOUR 5 HUNDRED 4 NINE 4 SEVEN 4 SIX 5 HUNDRED 4 TEN 5 THOUSAND 4
  THREE 4 TWO 5 THOUSAND 2 FRACTION ONE HALF 4 SIXTH 2 MARRATAN 2 NUMBER EIGHT 4 HUNDRED 4 THOUSAND
  3 EIGHTY 4 THOUSAND 3 FIFTY 4 THOUSAND 3 FIVE 4 HUNDRED 4 THOUSAND 3 FORTY 4 THOUSAND 3 FOUR 4
  HUNDRED 4 THOUSAND 3 NINE 4 HUNDRED 4 THOUSAND 3 NINETY 4 THOUSAND 3 ONE 4 HUNDRED 4 THOUSAND 3
  SEVEN 4 HUNDRED 4 THOUSAND 3 SEVENTY 4 THOUSAND 3 SIX 4 HUNDRED 4 THOUSAND 3 SIXTY 4 THOUSAND 3
  TEN 4 THOUSAND 3 THIRTY 4 THOUSAND 3 THREE 4 HUNDRED 4 THOUSAND 3 TWENTY 4 THOUSAND 3 TWO 4
  HUNDRED 4 THOUSAND 0 OUNCE SIGN 0 OUTBOX TRAY 0 OUTLINED BLACK STAR 1 GREEK CROSS 1 LATIN CROSS 1
  WHITE STAR 0 OVERHEATED FACE 0 OVERLAP 0 OVERLAPPING BLACK SQUARES 1 WHITE AND BLACK SQUARES 2
  SQUARES 0 OVERLINE 0 OWL 0 OX 0 OYSTER 0 PACKAGE 0 PAD 0 PADDING CHARACTER 0 PAGE 1 FACING UP 1
  WITH CIRCLED TEXT 2 CURL 0 PAGER 0 PAGES 0 PAGODA 0 PAHAWH HMONG CLAN SIGN FAJ 4 HAM 4 HAWJ 4 KHAB
  4 KOO 4 KWM 4 LAUJ 4 LIS 4 MUAS 4 PHAB 4 THOJ 4 TSAB 4 TSHEEJ 4 TSWB 4 VAJ 4 VWJ 4 XYOOJ 4 YAJ 4
  YEEG 2 CONSONANT AU 3 CAU 3 CHAU 3 HAU 3 HLAU 3 HNAU 3 LAU 3 MAU 3 NAU 3 NCHAU 3 NKAU 3 NLAU 3
  NTHAU 3 NTSAU 3 PLHAU 3 QHAU 3 RAU 3 VAU 3 XAU 3 YAU 2 DIGIT EIGHT 3 FIVE 3 FOUR 3 NINE 3 ONE 3
  SEVEN 3 SIX 3 THREE 3 TWO 3 ZERO 2 MARK CIM HOM 4 KES 4 KHAV 4 SO 4 SUAM 4 TAUM 4 TUB 2 NUMBER
  HUNDRED MILLIONS 3 HUNDREDS 3 MILLIONS 3 TEN BILLIONS 4 THOUSANDS 3 TENS 3 TRILLIONS 2 SIGN AV 3
  CIM CHEEM 4 CUAM TSHOOJ 4 HAIS LUS NTOG NTOG 4 NRES TOS 4 PUB DAWB 4 TSOV ROG 4 TXWV 5 CHWV 3 HLI
  3 HNUB 3 IB YAM 3 LOS 3 MEEJ SUAB 4 TSEEB 3 MUS 3 NQIG 3 NTUJ 3 TAU 3 THIRD-STAGE HLI 3 TXHEEJ
  CEEV 3 VOS FEEM 4 LUB 4 NRUA 4 SEEV 4 THIAB 4 THOM 4 TSHAB CEEB 3 XAUS 3 XIAB 3 XYEEM FAIB 4 NTXIV
  4 RHO 4 TOV 3 XYOO 3 ZWJ THAJ 2 VOWEL KAAB 3 KAAV 3 KAB 3 KAIB 3 KAIV 3 KAUB 3 KAUV 3 KAV 3 KAWB 3
  KAWV 3 KEB 3 KEEB 3 KEEV 3 KEV 3 KIAB 3 KIAV 3 KIB 3 KIV 3 KOB 3 KOOB 3 KOOV 3 KOV 3 KUAB 3 KUAV 3
  KUB 3 KUV 3 KWB 3 KWV 0 PALLAS 0 PALM BRANCH 1 DOWN HAND 1 TREE 1 UP HAND 0 PALMS UP TOGETHER 0
  PALMYRENE LEFT-POINTING FLEURON 1 LETTER ALEPH 2 AYIN 2 BETH 2 DALETH 2 FINAL NUN 2 GIMEL 2 HE 2
  HETH 2 KAPH 2 LAMEDH 2 MEM 2 NUN 2 PE 2 QOPH 2 RESH 2 SADHE 2 SAMEKH 2 SHIN 2 TAW 2 TETH 2 WAW 2
  YODH 2 ZAYIN 1 NUMBER FIVE 2 FOUR 2 ONE 2 TEN 2 THREE 2 TWENTY 2 TWO 1 RIGHT-POINTING FLEURON 0
  PANCAKES 0 PANDA FACE 0 PAPERCLIP 0 PARACHUTE 0 PARAGRAPH SEPARATOR 0 PARAGRAPHOS 0 PARAGRAPHUS
  MARK 0 PARALLEL TO 1 WITH HORIZONTAL STROKE 2 TILDE OPERATOR 0 PARENTHESIZED DIGIT EIGHT 2 FIVE 2
  FOUR 2 NINE 2 ONE 2 SEVEN 2 SIX 2 THREE 2 TWO 1 HANGUL CHIEUCH 3 A 2 CIEUC 3 A 3 U 2 HIEUH 3 A 2
  IEUNG 3 A 2 KHIEUKH 3 A 2 KIYEOK 3 A 2 MIEUM 3 A 2 NIEUN 3 A 2 PHIEUPH 3 A 2 PIEUP 3 A 2 RIEUL 3 A
  2 SIOS 3 A 2 THIEUTH 3 A 2 TIKEUT 3 A 1 IDEOGRAPH ALLIANCE 2 CALL 2 CONGRATULATION 2 EARTH 2 EIGHT
  2 ENTERPRISE 2 FESTIVAL 2 FINANCIAL 2 FIRE 2 FIVE 2 FOUR 2 HAVE 2 LABOR 2 METAL 2 MOON 2 NAME 2
  NINE 2 ONE 2 REACH 2 REPRESENT 2 RESOURCE 2 REST 2 SELF 2 SEVEN 2 SIX 2 SOCIETY 2 SPECIAL 2 STOCK
  2 STUDY 2 SUN 2 SUPERVISE 2 TEN 2 THREE 2 TWO 2 WATER 2 WOOD 1 KOREAN CHARACTER O HU 3 OJEON 1
  LATIN CAPITAL LETTER A 4 B 4 C 4 D 4 E 4 F 4 G 4 H 4 I 4 J 4 K 4 L 4 M 4 N 4 O 4 P 4 Q 4 R 4 S 4 T
  4 U 4 V 4 W 4 X 4 Y 4 Z 2 SMALL LETTER A 4 B 4 C 4 D 4 E 4 F 4 G 4 H 4 I 4 J 4 K 4 L 4 M 4 N 4 O 4
  P 4 Q 4 R 4 S 4 T 4 U 4 V 4 W 4 X 4 Y 4 Z 1 NUMBER EIGHTEEN 2 ELEVEN 2 FIFTEEN 2 FOURTEEN 2
  NINETEEN 2 SEVENTEEN 2 SIXTEEN 2 TEN 2 THIRTEEN 2 TWELVE 2 TWENTY 0 PARROT 0 PART ALTERNATION MARK
  0 PARTIAL DIFFERENTIAL 1 LINE BACKWARD 2 DOWN 2 FORWARD 2 UP 0 PARTIALLY-RECYCLED PAPER SYMBOL 0
  PARTNERSHIP SIGN 0 PARTY POPPER 0 PASSED SYMBOL 0 PASSENGER SHIP 0 PASSIVE-PULL-DOWN-OUTPUT SYMBOL
  0 PASSIVE-PULL-UP-OUTPUT SYMBOL 0 PASSPORT CONTROL 0 PAU CIN HAU GLOTTAL STOP 5 FINAL 5 VARIANT 3
  LETTER A 4 BA 4 CA 4 CHA 4 DA 4 E 4 FA 4 FINAL K 5 L 5 M 5 N 5 NG 5 P 5 T 5 W 5 Y 4 GA 4 HA 4 I 4
  IA 4 KA 4 KHA 4 LA 4 MA 4 NA 4 NGA 4 O 4 PA 4 PHA 4 RA 4 SA 4 TA 4 THA 4 U 4 UA 4 VA 4 ZA 3
  LOW-FALLING TONE 5 FINAL 5 LONG 6 FINAL 3 MID-LEVEL TONE 5 FINAL 5 LONG FINAL 3 RISING TONE 5
  FINAL 5 LONG 6 FINAL 3 SANDHI GLOTTAL STOP 6 FINAL 4 TONE 5 FINAL 5 LONG 6 FINAL 0 PAW PRINTS 0
  PDF 0 PDI 0 PEACE SYMBOL 0 PEACH 0 PEACOCK 0 PEANUTS 0 PEAR 0 PEDESTRIAN 0 PEN OVER STAMPED
  ENVELOPE 0 PENCIL 0 PENGUIN 0 PENSIVE FACE 0 PENTAGRAM 0 PEOPLE HUGGING 0 PER MILLE SIGN 1 SIGN 1
  TEN THOUSAND SIGN 0 PERCENT SIGN 0 PERFORMING ARTS 0 PERMANENT PAPER SIGN 0 PERPENDICULAR 1 WITH S
  0 PERSEVERING FACE 0 PERSON BOWING DEEPLY 1 CLIMBING 1 DOING CARTWHEEL 1 FROWNING 1 IN LOTUS
  POSITION 2 STEAMY ROOM 1 RAISING BOTH HANDS IN CELEBRATION 1 WITH BALL 2 BLOND HAIR 2 CROWN 2
  FOLDED HANDS 2 HEADSCARF 2 POUTING FACE 0 PERSONAL COMPUTER 0 PERSPECTIVE 0 PESETA SIGN 0 PESO
  SIGN 0 PETRI DISH 0 PHAGS-PA DOUBLE HEAD MARK 1 LETTER A 2 ALTERNATE YA 2 ASPIRATED FA 2 BA 2 CA 2
  CANDRABINDU 2 CHA 2 DA 2 DDA 2 DZA 2 E 2 EE 2 FA 2 GA 2 GGA 2 HA 2 I 2 JA 2 KA 2 KHA 2 LA 2 MA 2
  NA 2 NGA 2 NNA 2 NYA 2 O 2 PA 2 PHA 2 QA 2 RA 2 SA 2 SHA 2 SMALL A 2 TA 2 THA 2 TSA 2 TSHA 2 TTA 2
  TTHA 2 U 2 VOICED HA 2 VOICELESS SHA 2 WA 2 XA 2 YA 2 ZA 2 ZHA 1 MARK DOUBLE SHAD 2 SHAD 1 SINGLE
  HEAD MARK 1 SUBJOINED LETTER RA 3 WA 3 YA 1 SUPERFIXED LETTER RA 0 PHAISTOS DISC SIGN ARROW 3 BEE
  3 BEEHIVE 3 BOOMERANG 3 BOW 3 BULLS LEG 3 CAPTIVE 3 CARPENTRY PLANE 3 CAT 3 CHILD 3 CLUB 3 COLUMN
  3 COMB 3 COMBINING OBLIQUE STROKE 3 DOLIUM 3 DOVE 3 EAGLE 3 FLUTE 3 GAUNTLET 3 GRATER 3 HELMET 3
  HIDE 3 HORN 3 LID 3 LILY 3 MANACLES 3 MATTOCK 3 OX BACK 3 PAPYRUS 3 PEDESTRIAN 3 PLANE TREE 3
  PLUMED HEAD 3 RAM 3 ROSETTE 3 SAW 3 SHIELD 3 SHIP 3 SLING 3 SMALL AXE 3 STRAINER 3 TATTOOED HEAD 3
  TIARA 3 TUNNY 3 VINE 3 WAVY BAND 3 WOMAN 0 PHILIPPINE DOUBLE PUNCTUATION 1 SINGLE PUNCTUATION 0
  PHOENICIAN LETTER AIN 2 ALF 2 BET 2 DELT 2 GAML 2 HE 2 HET 2 KAF 2 LAMD 2 MEM 2 NUN 2 PE 2 QOF 2
  ROSH 2 SADE 2 SEMK 2 SHIN 2 TAU 2 TET 2 WAU 2 YOD 2 ZAI 1 NUMBER ONE 3 HUNDRED 2 TEN 2 THREE 2
  TWENTY 2 TWO 1 WORD SEPARATOR 0 PHOLUS 0 PICK 0 PICKUP TRUCK 0 PIE 0 PIG 1 FACE 1 NOSE 0 PILCROW
  SIGN 0 PILE OF POO 0 PILL 0 PINATA 0 PINCHED FINGERS 0 PINCHING HAND 0 PINE DECORATION 0 PINEAPPLE
  0 PINWHEEL STAR 0 PISCES 0 PISTOL 0 PITCHFORK 1 WITH TEE TOP 0 PLACARD 0 PLACE OF INTEREST SIGN 2
  WORSHIP 0 PLANCK CONSTANT 2 OVER TWO PI 0 PLAYGROUND SLIDE 0 PLAYING CARD ACE OF CLUBS 4 DIAMONDS
  4 HEARTS 4 SPADES 2 BACK 2 BLACK JOKER 2 EIGHT OF CLUBS 4 DIAMONDS 4 HEARTS 4 SPADES 2 FIVE OF
  CLUBS 4 DIAMONDS 4 HEARTS 4 SPADES 2 FOOL 2 FOUR OF CLUBS 4 DIAMONDS 4 HEARTS 4 SPADES 2 JACK OF
  CLUBS 4 DIAMONDS 4 HEARTS 4 SPADES 2 KING OF CLUBS 4 DIAMONDS 4 HEARTS 4 SPADES 2 KNIGHT OF CLUBS
  4 DIAMONDS 4 HEARTS 4 SPADES 2 NINE OF CLUBS 4 DIAMONDS 4 HEARTS 4 SPADES 2 QUEEN OF CLUBS 4
  DIAMONDS 4 HEARTS 4 SPADES 2 RED JOKER 2 SEVEN OF CLUBS 4 DIAMONDS 4 HEARTS 4 SPADES 2 SIX OF
  CLUBS 4 DIAMONDS 4 HEARTS 4 SPADES 2 TEN OF CLUBS 4 DIAMONDS 4 HEARTS 4 SPADES 2 THREE OF CLUBS 4
  DIAMONDS 4 HEARTS 4 SPADES 2 TRUMP-1 2 TRUMP-10 2 TRUMP-11 2 TRUMP-12 2 TRUMP-13 2 TRUMP-14 2
  TRUMP-15 2 TRUMP-16 2 TRUMP-17 2 TRUMP-18 2 TRUMP-19 2 TRUMP-2 2 TRUMP-20 2 TRUMP-21 2 TRUMP-3 2
  TRUMP-4 2 TRUMP-5 2 TRUMP-6 2 TRUMP-7 2 TRUMP-8 2 TRUMP-9 2 TWO OF CLUBS 4 DIAMONDS 4 HEARTS 4
  SPADES 2 WHITE JOKER 0 PLD 0 PLU 0 PLUNGER 0 PLUS SIGN 2 ABOVE EQUALS SIGN 2 IN LEFT HALF CIRCLE 3
  RIGHT HALF CIRCLE 3 TRIANGLE 2 WITH BLACK TRIANGLE 3 CIRCUMFLEX ACCENT ABOVE 3 DOT BELOW 3 SMALL
  CIRCLE ABOVE 3 SUBSCRIPT TWO 3 TILDE ABOVE 4 BELOW 0 PLUS-MINUS SIGN 0 PLUTO 1 FORM FIVE 2 FOUR 2
  THREE 2 TWO 0 PM 0 POCKET CALCULATOR 0 POLICE CAR 1 CARS REVOLVING LIGHT 1 OFFICER 0 POODLE 0 POP
  DIRECTIONAL FORMATTING 2 ISOLATE 0 POPCORN 0 PORTABLE STEREO 0 POSEIDON 0 POSITION INDICATOR 0
  POSTAL HORN 1 MARK 2 FACE 0 POSTBOX 0 POT OF FOOD 0 POTABLE WATER SYMBOL 0 POTATO 0 POTTED PLANT 0
  POUCH 0 POULTRY LEG 0 POUND SIGN 0 POURING LIQUID 0 POUTING CAT FACE 1 FACE 0 POWER ON SYMBOL 1
  ON-OFF SYMBOL 1 SLEEP SYMBOL 1 SYMBOL 0 PRAYER BEADS 0 PRECEDES 1 ABOVE ALMOST EQUAL TO 2 EQUALS
  SIGN 2 NOT ALMOST EQUAL TO 3 EQUAL TO 2 SINGLE-LINE EQUALS SIGN 3 NOT EQUAL TO 1 BUT NOT
  EQUIVALENT TO 1 OR EQUAL TO 2 EQUIVALENT TO 1 UNDER RELATION 0 PREGNANT MAN 1 PERSON 1 WOMAN 0
  PRESCRIPTION TAKE 0 PRESENTATION FORM FOR VERTICAL COLON 4 COMMA 4 EM DASH 4 EN DASH 4 EXCLAMATION
  MARK 4 HORIZONTAL ELLIPSIS 4 IDEOGRAPHIC COMMA 5 FULL STOP 4 LEFT ANGLE BRACKET 5 BLACK LENTICULAR
  BRACKET 5 CORNER BRACKET 5 CURLY BRACKET 5 DOUBLE ANGLE BRACKET 5 PARENTHESIS 5 SQUARE BRACKET 5
  TORTOISE SHELL BRACKET 5 WHITE CORNER BRACKET 6 LENTICULAR BRACKET 4 LOW LINE 4 QUESTION MARK 4
  RIGHT ANGLE BRACKET 5 BLACK LENTICULAR BRACKET 5 CORNER BRACKET 5 CURLY BRACKET 5 DOUBLE ANGLE
  BRACKET 5 PARENTHESIS 5 SQUARE BRACKET 5 TORTOISE SHELL BRACKET 5 WHITE CORNER BRACKET 6
  LENTICULAR BRACKET 7 BRAKCET 4 SEMICOLON 4 TWO DOT LEADER 4 WAVY LOW LINE 0 PRETZEL 0 PREVIOUS
  PAGE 0 PRIME 0 PRINCE 0 PRINCESS 0 PRINT SCREEN SYMBOL 0 PRINTER 1 ICON 0 PRIVACY MESSAGE 0
  PRIVATE USE ONE 2 TWO 1 USE-1 1 USE-2 0 PROBING CANE 0 PROHIBITED SIGN 0 PROJECTIVE 0 PROPERTY
  LINE 0 PROPORTION 0 PROPORTIONAL TO 0 PROSERPINA 0 PSALTER PAHLAVI FOUR DOTS WITH CROSS 5 DOT 2
  LETTER ALEPH 3 BETH 3 DALETH 3 GIMEL 3 HE 3 HETH 3 KAPH 3 LAMEDH 3 MEM-QOPH 3 NUN 3 PE 3 SADHE 3
  SAMEKH 3 SHIN 3 TAW 3 WAW-AYIN-RESH 3 YODH 3 ZAYIN 2 NUMBER FOUR 3 ONE 4 HUNDRED 3 TEN 3 THREE 3
  TWENTY 3 TWO 2 SECTION MARK 2 TURNED SECTION MARK 0 PU1 0 PU2 0 PUBLIC ADDRESS LOUDSPEAKER 0
  PUNCTUATION SPACE 0 PUNCTUS ELEVATUS MARK 0 PURPLE HEART 0 PURSE 0 PUSHPIN 0 PUT LITTER IN ITS
  PLACE SYMBOL 0 QUADRANT LOWER LEFT 2 RIGHT 1 UPPER LEFT 3 AND LOWER LEFT AND LOWER RIGHT 5 RIGHT 4
  UPPER RIGHT AND LOWER LEFT 8 RIGHT 2 RIGHT 3 AND LOWER LEFT 6 AND LOWER RIGHT 0 QUADRUPLE INTEGRAL
  OPERATOR 1 PRIME 0 QUARTER NOTE 0 QUATERNION INTEGRAL OPERATOR 0 QUESTION EXCLAMATION MARK 1 MARK
  0 QUESTIONED EQUAL TO 0 QUINCUNX 0 QUOTATION MARK 0 RABBIT 1 FACE 0 RACCOON 0 RACING CAR 1
  MOTORCYCLE 0 RADICAL SYMBOL BOTTOM 0 RADIO 1 BUTTON 0 RADIOACTIVE SIGN 0 RAILWAY CAR 1 TRACK 0
  RAIN 0 RAINBOW 0 RAISED BACK OF HAND 1 COMMA 1 DOT 1 DOTTED INTERPOLATION MARKER 1 FIST 1 HAND 2
  WITH FINGERS SPLAYED 3 PART BETWEEN MIDDLE AND RING FINGERS 1 INTERPOLATION MARKER 1 MC SIGN 1 MD
  SIGN 1 MR SIGN 1 SQUARE 0 RAM 0 RAT 0 RATIO 0 RAZOR 0 RECEIPT 0 RECORD SEPARATOR 0 RECREATIONAL
  VEHICLE 0 RECYCLED PAPER SYMBOL 0 RECYCLING SYMBOL FOR GENERIC MATERIALS 3 TYPE-1 PLASTICS 3
  TYPE-2 PLASTICS 3 TYPE-3 PLASTICS 3 TYPE-4 PLASTICS 3 TYPE-5 PLASTICS 3 TYPE-6 PLASTICS 3 TYPE-7
  PLASTICS 0 RED APPLE 1 GIFT ENVELOPE 0 REFERENCE MARK 0 REGIONAL INDICATOR SYMBOL LETTER A 4 B 4 C
  4 D 4 E 4 F 4 G 4 H 4 I 4 J 4 K 4 L 4 M 4 N 4 O 4 P 4 Q 4 R 4 S 4 T 4 U 4 V 4 W 4 X 4 Y 4 Z 0
  REGISTERED SIGN 0 REJANG CONSONANT SIGN H 3 N 3 NG 3 R 1 LETTER A 2 BA 2 CA 2 DA 2 GA 2 HA 2 JA 2
  KA 2 LA 2 MA 2 MBA 2 NA 2 NDA 2 NGA 2 NGGA 2 NYA 2 NYJA 2 PA 2 RA 2 SA 2 TA 2 WA 2 YA 1 SECTION
  MARK 1 VIRAMA 1 VOWEL SIGN AI 3 AU 3 E 3 EA 3 EU 3 I 3 O 3 U 0 RELIEVED FACE 0 REMINDER RIBBON 0
  REPLACEMENT CHARACTER 0 RESPONSE 0 RESTRICTED LEFT ENTRY-1 2 ENTRY-2 0 RESTROOM 0 RETURN LEFT 1
  RIGHT 1 SYMBOL 0 REVERSE CHECKER BOARD 1 INDEX 1 LIGHT FOUR POINTED PINWHEEL STAR 1 LINE FEED 1
  SOLIDUS 2 OPERATOR 2 PRECEDING SUBSET 2 WITH HORIZONTAL STROKE 1 TILDE OPERATOR ABOVE LEFTWARDS
  ARROW 4 RIGHTWARDS ARROW 0 REVERSED ANGLE 2 WITH UNDERBAR 1 COMMA 1 DOUBLE PRIME 3 QUOTATION MARK
  2 STROKE NOT SIGN 1 EMPTY SET 1 FORKED PARAGRAPHOS 1 HAND WITH MIDDLE FINGER EXTENDED 1 NOT SIGN 1
  PILCROW SIGN 1 PRIME 1 QUESTION MARK 1 RAISED HAND WITH FINGERS SPLAYED 1 RIGHT ANGLE 1 ROTATED
  FLORAL HEART BULLET 1 SANS-SERIF CAPITAL L 1 SEMICOLON 1 THUMBS DOWN SIGN 2 UP SIGN 1 TILDE 2
  EQUALS 1 TRIPLE PRIME 1 VICTORY HAND 0 REVOLVING HEARTS 0 RHINOCEROS 0 RI 0 RIAL SIGN 0 RIBBON 1
  ARROW DOWN LEFT 3 RIGHT 2 LEFT DOWN 3 UP 2 RIGHT DOWN 3 UP 2 UP LEFT 3 RIGHT 0 RICE BALL 1 CRACKER
  0 RIFLE 0 RIGHT AND LOWER ONE EIGHTH BLOCK 2 UPPER ONE EIGHTH BLOCK 1 ANGER BUBBLE 1 ANGLE 2
  BRACKET 3 WITH DOT 2 DOTTED SUBSTITUTION MARKER 2 SUBSTITUTION MARKER 2 VARIANT WITH SQUARE 2 WITH
  ARC 3 DOWNWARDS ZIGZAG ARROW 1 ARC GREATER-THAN BRACKET 1 ARROW WITH CIRCLED PLUS 3 SMALL CIRCLE 1
  BLACK LENTICULAR BRACKET 2 TORTOISE SHELL BRACKET 1 CEILING 1 CORNER BRACKET 1 CURLY BRACKET 3
  LOWER HOOK 3 MIDDLE PIECE 3 UPPER HOOK 1 DOTTED SUBSTITUTION BRACKET 1 DOUBLE ANGLE BRACKET 2
  ARROW WITH ROUNDED HEAD 2 PARENTHESIS 2 QUOTATION MARK 2 WIGGLY FENCE 1 FISH TAIL 1 FIVE EIGHTHS
  BLOCK 1 FLOOR 1 HALF BLACK CIRCLE 3 STAR 2 BLOCK 2 FOLDER 2 MEDIUM SHADE 2 RUNNING MAN 1 HAND
  TELEPHONE RECEIVER 1 LOW PARAPHRASE BRACKET 1 NORMAL FACTOR SEMIDIRECT PRODUCT 1 ONE EIGHTH BLOCK
  2 QUARTER BLOCK 1 OPEN SQUARED DOT 1 OUTER JOIN 1 PARENTHESIS 2 EXTENSION 2 LOWER HOOK 2 UPPER
  HOOK 1 RAISED OMISSION BRACKET 1 S-SHAPED BAG DELIMITER 1 SEMIDIRECT PRODUCT 1 SEVEN EIGHTHS BLOCK
  1 SIDEWAYS U BRACKET 1 SINGLE QUOTATION MARK 1 SPEAKER 2 WITH ONE SOUND WAVE 3 THREE SOUND WAVES 1
  SPEECH BUBBLE 1 SQUARE BRACKET 3 EXTENSION 3 LOWER CORNER 3 UPPER CORNER 3 WITH DOUBLE STROKE 4
  QUILL 4 STROKE 4 TICK IN BOTTOM CORNER 6 TOP CORNER 4 UNDERBAR 1 SUBSTITUTION BRACKET 1 TACK 1
  THIRD WHITE RIGHT POINTING INDEX 1 THOUGHT BUBBLE 1 THREE EIGHTHS BLOCK 2 QUARTERS BLOCK 1
  TORTOISE SHELL BRACKET 1 TRANSPOSITION BRACKET 1 TRIANGLE 2 ABOVE LEFT TRIANGLE 1 TRIANGULAR ONE
  QUARTER BLOCK 1 VERTICAL BAR WITH QUILL 2 BOX LINE 1 WHITE CORNER BRACKET 2 CURLY BRACKET 2
  LENTICULAR BRACKET 2 PARENTHESIS 2 SQUARE BRACKET 2 TORTOISE SHELL BRACKET 1 WIGGLY FENCE 0
  RIGHT-FACING ARMENIAN ETERNITY SIGN 1 FIST 1 SVASTI SIGN 3 WITH DOTS 0 RIGHT-HANDED INTERLACED
  PENTAGRAM 0 RIGHT-POINTING ANGLE BRACKET 1 CURVED ANGLE BRACKET 1 DOUBLE ANGLE QUOTATION MARK 1
  MAGNIFYING GLASS 0 RIGHT-SHADED WHITE RIGHTWARDS ARROW 0 RIGHT-SIDE ARC CLOCKWISE ARROW 0
  RIGHT-TO-LEFT EMBEDDING 1 ISOLATE 1 MARK 1 OVERRIDE 0 RIGHTHAND INTERIOR PRODUCT 0 RIGHTWARDS
  ARROW 2 ABOVE ALMOST EQUAL TO 3 REVERSE ALMOST EQUAL TO 4 TILDE OPERATOR 3 SHORT LEFTWARDS ARROW 3
  TILDE OPERATOR 2 AND UPPER AND LOWER ONE EIGHTH BLOCK 2 FROM BAR 4 TO BLACK DIAMOND 2 OVER
  LEFTWARDS ARROW 2 THROUGH GREATER-THAN 3 SUPERSET 3 X 2 TO BAR 3 BLACK DIAMOND 2 WITH CORNER
  DOWNWARDS 3 DOTTED STEM 3 DOUBLE VERTICAL STROKE 3 EQUILATERAL ARROWHEAD 3 HOOK 3 LARGE TRIANGLE
  ARROWHEAD 3 LOOP 3 MEDIUM TRIANGLE ARROWHEAD 3 NOTCHED TAIL 3 PLUS BELOW 3 SMALL EQUILATERAL
  ARROWHEAD 4 TRIANGLE ARROWHEAD 3 STROKE 3 TAIL 4 WITH DOUBLE VERTICAL STROKE 5 VERTICAL STROKE 3
  TIP DOWNWARDS 4 UPWARDS 3 VERTICAL STROKE 1 ARROW-TAIL 1 BACK-TILTED SHADOWED WHITE ARROW 1 BLACK
  ARROW 2 CIRCLED WHITE ARROW 1 BOTTOM SHADED WHITE ARROW 1 COMPRESSED ARROW 1 DASHED ARROW 1 DOUBLE
  ARROW 3 FROM BAR 3 WITH STROKE 4 VERTICAL STROKE 2 ARROW-TAIL 2 DASH ARROW 1 FINGER-POST ARROW 1
  FRONT-TILTED SHADOWED WHITE ARROW 1 HAND 1 HARPOON OVER LEFTWARDS HARPOON 2 WITH BARB DOWN ABOVE
  LEFTWARDS HARPOON WITH BARB DOWN 5 BELOW LONG DASH 5 FROM BAR 5 TO BAR 4 DOWNWARDS 4 UP ABOVE
  LEFTWARDS HARPOON WITH BARB UP 6 LONG DASH 6 RIGHTWARDS HARPOON WITH BARB DOWN 5 FROM BAR 5 TO BAR
  4 UPWARDS 1 HEAVY ARROW 2 COMPRESSED ARROW 1 LEFT-SHADED WHITE ARROW 1 OPEN-HEADED ARROW 1 PAIRED
  ARROWS 1 QUADRUPLE ARROW 1 RIGHT-SHADED WHITE ARROW 1 ROCKET 1 SANS-SERIF ARROW 1 SQUARED ARROW 1
  SQUIGGLE ARROW 1 TOP SHADED WHITE ARROW 1 TRIANGLE ARROWHEAD 1 TRIANGLE-HEADED ARROW 3 OVER
  LEFTWARDS TRIANGLE-HEADED ARROW 3 TO BAR 3 WITH BOLD SHAFT 4 DOUBLE HORIZONTAL STROKE 5 VERTICAL
  STROKE 4 HEAVY SHAFT 4 LONG TIP DOWNWARDS 6 UPWARDS 4 MEDIUM SHAFT 4 NARROW SHAFT 4 VERY HEAVY
  SHAFT 2 DASHED ARROW 2 PAIRED ARROWS 1 TRIPLE ARROW 2 DASH ARROW 1 TWO HEADED ARROW 1 TWO-HEADED
  ARROW FROM BAR 3 WITH DOUBLE VERTICAL STROKE 4 TAIL 5 WITH DOUBLE VERTICAL STROKE 6 VERTICAL
  STROKE 4 TRIANGLE ARROWHEADS 4 VERTICAL STROKE 2 TRIPLE DASH ARROW 1 WAVE ARROW 1 WHITE ARROW 3
  FROM WALL 3 WITHIN TRIANGLE ARROWHEAD 0 RING 1 ABOVE 1 BUOY 1 EQUAL TO 1 IN EQUAL TO 1 OPERATOR 1
  POINT 0 RINGED PLANET 0 RINGING BELL 0 RISING DIAGONAL CROSSING FALLING DIAGONAL 3 SOUTH EAST
  ARROW 0 RLE 0 RLI 0 RLM 0 RLO 0 ROASTED SWEET POTATO 0 ROBOT FACE 0 ROCK 0 ROCKET 0 ROLL OF PAPER
  0 ROLLED-UP NEWSPAPER 0 ROLLER COASTER 1 SKATE 0 ROLLING ON THE FLOOR LAUGHING 0 ROMAN AS SIGN 1
  CENTURIAL SIGN 1 DENARIUS SIGN 1 DIMIDIA SEXTULA SIGN 1 DUPONDIUS SIGN 1 NUMERAL EIGHT 2 ELEVEN 2
  FIFTY 3 EARLY FORM 3 THOUSAND 2 FIVE 3 HUNDRED 3 THOUSAND 2 FOUR 2 NINE 2 ONE 3 HUNDRED 4 THOUSAND
  3 THOUSAND 4 C D 2 REVERSED ONE HUNDRED 2 SEVEN 2 SIX 3 LATE FORM 2 TEN 3 THOUSAND 2 THREE 2
  TWELVE 2 TWO 1 QUINARIUS SIGN 1 SEMUNCIA SIGN 1 SESTERTIUS SIGN 1 SEXTANS SIGN 1 SEXTULA SIGN 1
  SILIQUA SIGN 1 UNCIA SIGN 0 ROOSTER 0 ROSE 0 ROSETTE 0 ROTATED CAPITAL Q 1 FLORAL HEART BULLET 1
  HEAVY BLACK HEART BULLET 1 LIGHT FOUR POINTED BLACK CUSP 1 WHITE FOUR POINTED CUSP 0 ROUND PUSHPIN
  1 TARGET 0 ROUNDED SYMBOL FOR CAI 3 FU 3 LU 3 SHOU 3 SHUANGXI 3 XI 0 ROWBOAT 0 RS 0 RUBLE SIGN 0
  RUGBY FOOTBALL 0 RULE-DELAYED 0 RUMI DIGIT EIGHT 2 FIVE 2 FOUR 2 NINE 2 ONE 2 SEVEN 2 SIX 2 THREE
  2 TWO 1 FRACTION ONE HALF 3 QUARTER 3 THIRD 2 TWO THIRDS 1 NUMBER EIGHT HUNDRED 2 EIGHTY 2 FIFTY 2
  FIVE HUNDRED 2 FORTY 2 FOUR HUNDRED 2 NINE HUNDRED 2 NINETY 2 ONE HUNDRED 2 SEVEN HUNDRED 2
  SEVENTY 2 SIX HUNDRED 2 SIXTY 2 TEN 2 THIRTY 2 THREE HUNDRED 2 TWENTY 2 TWO HUNDRED 0 RUNIC ARLAUG
  SYMBOL 1 BELGTHOR SYMBOL 1 CROSS PUNCTUATION 1 LETTER AC A 2 AESC 2 ALGIZ EOLHX 2 ANSUZ A 2
  BERKANAN BEORC BJARKAN B 2 C 2 CALC 2 CEALC 2 CEN 2 CWEORTH 2 D 2 DAGAZ DAEG D 2 DOTTED-L 2
  DOTTED-N 2 DOTTED-P 2 E 2 EAR 2 EHWAZ EH E 2 ENG 2 ETH 2 FEHU FEOH FE F 2 FRANKS CASKET AC 4 AESC
  4 EH 4 IS 4 OS 2 G 2 GAR 2 GEBO GYFU G 2 GER 2 HAEGL H 2 HAGLAZ H 2 ICELANDIC-YR 2 ING 2 INGWAZ 2
  IOR 2 ISAZ IS ISS I 2 IWAZ EOH 2 JERAN J 2 K 2 KAUN K 2 KAUNA 2 LAUKAZ LAGU LOGR L 2
  LONG-BRANCH-AR AE 2 LONG-BRANCH-HAGALL H 2 LONG-BRANCH-MADR M 2 LONG-BRANCH-OSS O 2 LONG-BRANCH-YR
  2 MANNAZ MAN M 2 NAUDIZ NYD NAUD N 2 O 2 OE 2 ON 2 OO 2 OPEN-P 2 OS O 2 OTHALAN ETHEL O 2 PERTHO
  PEORTH P 2 Q 2 RAIDO RAD REID R 2 SH 2 SHORT-TWIG-AR A 2 SHORT-TWIG-BJARKAN B 2 SHORT-TWIG-HAGALL
  H 2 SHORT-TWIG-MADR M 2 SHORT-TWIG-NAUD N 2 SHORT-TWIG-OSS O 2 SHORT-TWIG-SOL S 2 SHORT-TWIG-TYR T
  2 SHORT-TWIG-YR 2 SIGEL LONG-BRANCH-SOL S 2 SOWILO S 2 STAN 2 THURISAZ THURS THORN 2 TIWAZ TIR TYR
  T 2 URUZ UR U 2 V 2 W 2 WUNJO WYNN W 2 X 2 Y 2 YR 2 Z 1 MULTIPLE PUNCTUATION 1 SINGLE PUNCTUATION
  1 TVIMADUR SYMBOL 0 RUNNER 0 RUNNING SHIRT WITH SASH 0 RUPEE SIGN 0 RUSSIAN ASTROLOGICAL SYMBOL
  BINOVILE 3 NOVILE 3 QUINTILE 3 SENTAGON 3 TREDECILE 3 VIGINTILE 0 S IN TRIANGLE 0 SAFETY PIN 1
  VEST 0 SAGITTARIUS 0 SAILBOAT 0 SAKE BOTTLE AND CUP 0 SALT SHAKER 0 SALTIRE 0 SALUTING FACE 0
  SAMARITAN ABBREVIATION MARK 1 LETTER ALAF 2 BAA 2 BIT 2 DALAT 2 FI 2 GAMAN 2 IN 2 IT 2 IY 2 KAAF 2
  LABAT 2 MIM 2 NUN 2 QUF 2 RISH 2 SHAN 2 SINGAAT 2 TAAF 2 TIT 2 TSAADIY 2 YUT 2 ZEN 1 MARK DAGESH 2
  EPENTHETIC YUT 2 IN 2 IN-ALAF 2 NEQUDAA 2 OCCLUSION 1 MODIFIER LETTER EPENTHETIC YUT 3 I 3 SHORT A
  1 PUNCTUATION AFSAAQ 2 ANGED 2 ANNAAU 2 ARKAANU 2 ATMAAU 2 BAU 2 MELODIC QITSA 2 NEQUDAA 2 QITSA 2
  SHIYYAALAA 2 SOF MASHFAAT 2 TURU 2 ZAEF 2 ZIQAA 1 VOWEL SIGN A 3 AA 3 E 3 I 3 LONG A 4 AA 4 E 4 I
  4 U 3 O 3 OVERLONG A 4 AA 3 SHORT A 3 SUKUN 3 U 0 SANDWICH 0 SANS-SERIF HEAVY DOUBLE COMMA
  QUOTATION MARK ORNAMENT 3 TURNED COMMA QUOTATION MARK ORNAMENT 2 LOW DOUBLE COMMA QUOTATION MARK
  ORNAMENT 1 INTERROBANG ORNAMENT 0 SARI 0 SATELLITE 1 ANTENNA 0 SATURN 0 SAURASHTRA CONSONANT SIGN
  HAARU 1 DANDA 1 DIGIT EIGHT 2 FIVE 2 FOUR 2 NINE 2 ONE 2 SEVEN 2 SIX 2 THREE 2 TWO 2 ZERO 1 DOUBLE
  DANDA 1 LETTER A 2 AA 2 AI 2 AU 2 BA 2 BHA 2 CA 2 CHA 2 DA 2 DDA 2 DDHA 2 DHA 2 E 2 EE 2 GA 2 GHA
  2 HA 2 I 2 II 2 JA 2 JHA 2 KA 2 KHA 2 LA 2 LLA 2 MA 2 NA 2 NGA 2 NNA 2 NYA 2 O 2 OO 2 PA 2 PHA 2
  RA 2 SA 2 SHA 2 SSA 2 TA 2 THA 2 TTA 2 TTHA 2 U 2 UU 2 VA 2 VOCALIC L 3 LL 3 R 3 RR 2 YA 1 SIGN
  ANUSVARA 2 CANDRABINDU 2 VIRAMA 2 VISARGA 1 VOWEL SIGN AA 3 AI 3 AU 3 E 3 EE 3 I 3 II 3 O 3 OO 3 U
  3 UU 3 VOCALIC L 4 LL 4 R 4 RR 0 SAUROPOD 0 SAXOPHONE 0 SCALES 0 SCARF 0 SCHOOL 1 SATCHEL 0 SCI 0
  SCOOTER 0 SCORPION 0 SCORPIUS 0 SCREEN 0 SCREWDRIVER 0 SCRIPT CAPITAL B 2 E 2 F 2 H 2 I 2 L 2 M 2
  P 2 R 1 LIGATURE ET ORNAMENT 1 SMALL E 2 G 2 L 2 O 0 SCROLL 0 SCRUPLE 0 SEAL 0 SEAT 0 SECOND PLACE
  MEDAL 0 SECTION SIGN 0 SECTOR 0 SEDNA 0 SEE-NO-EVIL MONKEY 0 SEEDLING 0 SEGMENT 0 SEGMENTED DIGIT
  EIGHT 2 FIVE 2 FOUR 2 NINE 2 ONE 2 SEVEN 2 SIX 2 THREE 2 TWO 2 ZERO 0 SELFIE 0 SEMICOLON 0
  SEMIDIRECT PRODUCT WITH BOTTOM CLOSED 0 SEMISEXTILE 0 SEPARATED SYMBOL 0 SERIOUS FACE WITH SYMBOLS
  COVERING MOUTH 0 SERVICE MARK 0 SESAME DOT 0 SESQUIQUADRATE 0 SET MINUS 1 TRANSMIT STATE 0 SEWING
  NEEDLE 0 SEXTILE 0 SGC 0 SHADOWED WHITE CIRCLE 2 LATIN CROSS 2 STAR 0 SHALLOW PAN OF FOOD 0
  SHAMROCK 0 SHARADA ABBREVIATION SIGN 1 CONTINUATION SIGN 1 DANDA 1 DIGIT EIGHT 2 FIVE 2 FOUR 2
  NINE 2 ONE 2 SEVEN 2 SIX 2 THREE 2 TWO 2 ZERO 1 DOUBLE DANDA 1 EKAM 1 EXTRA SHORT VOWEL MARK 1
  HEADSTROKE 1 LETTER A 2 AA 2 AI 2 AU 2 BA 2 BHA 2 CA 2 CHA 2 DA 2 DDA 2 DDHA 2 DHA 2 E 2 GA 2 GHA
  2 HA 2 I 2 II 2 JA 2 JHA 2 KA 2 KHA 2 LA 2 LLA 2 MA 2 NA 2 NGA 2 NNA 2 NYA 2 O 2 PA 2 PHA 2 RA 2
  SA 2 SHA 2 SSA 2 TA 2 THA 2 TTA 2 TTHA 2 U 2 UU 2 VA 2 VOCALIC L 3 LL 3 R 3 RR 2 YA 1 OM 1 SANDHI
  MARK 1 SECTION MARK-1 2 MARK-2 1 SEPARATOR 1 SIGN ANUSVARA 2 AVAGRAHA 2 CANDRABINDU 2 INVERTED
  CANDRABINDU 2 JIHVAMULIYA 2 NUKTA 2 SIDDHAM 2 UPADHMANIYA 2 VIRAMA 2 VISARGA 1 SUTRA MARK 1 VOWEL
  MODIFIER MARK 2 SIGN AA 3 AI 3 AU 3 E 3 I 3 II 3 O 3 PRISHTHAMATRA E 3 U 3 UU 3 VOCALIC L 4 LL 4 R
  4 RR 0 SHARK 0 SHAVED ICE 0 SHAVIAN LETTER ADO 2 AGE 2 AH 2 AIR 2 ARE 2 ARRAY 2 ASH 2 AWE 2 BIB 2
  CHURCH 2 DEAD 2 EAR 2 EAT 2 EGG 2 ERR 2 FEE 2 GAG 2 HA-HA 2 HUNG 2 IAN 2 ICE 2 IF 2 JUDGE 2 KICK 2
  LOLL 2 MEASURE 2 MIME 2 NUN 2 OAK 2 OIL 2 ON 2 OOZE 2 OR 2 OUT 2 PEEP 2 ROAR 2 SO 2 SURE 2 THEY 2
  THIGH 2 TOT 2 UP 2 VOW 2 WOE 2 WOOL 2 YEA 2 YEW 2 ZOO 0 SHEEP 0 SHIELD 0 SHIFT IN 1 OUT 0 SHINTO
  SHRINE 0 SHIP 0 SHOCKED FACE WITH EXPLODING HEAD 0 SHOOTING STAR 0 SHOPPING BAGS 1 TROLLEY 0 SHORT
  BACKSLANTED SOUTH ARROW 1 BENT ARROW POINTING DOWNWARDS THEN NORTH EAST 1 DOWN TACK 3 WITH OVERBAR
  1 LEFT TACK 1 RIGHTWARDS ARROW ABOVE LEFTWARDS ARROW 1 SLANTED NORTH ARROW 1 UP TACK 3 ABOVE SHORT
  DOWN TACK 3 WITH UNDERBAR 0 SHORTCAKE 0 SHORTHAND FORMAT CONTINUING OVERLAP 2 DOWN STEP 2 LETTER
  OVERLAP 2 UP STEP 0 SHORTS 0 SHOULDERED OPEN BOX 0 SHOWER 0 SHRIMP 0 SHRUG 0 SHUFFLE PRODUCT 0 SHY
  0 SI 0 SIDDHAM DANDA 1 DOUBLE DANDA 1 END OF TEXT MARK 1 LETTER A 2 AA 2 AI 2 ALTERNATE U 2 AU 2
  BA 2 BHA 2 CA 2 CHA 2 DA 2 DDA 2 DDHA 2 DHA 2 E 2 GA 2 GHA 2 HA 2 I 2 II 2 JA 2 JHA 2 KA 2 KHA 2
  LA 2 MA 2 NA 2 NGA 2 NNA 2 NYA 2 O 2 PA 2 PHA 2 RA 2 SA 2 SHA 2 SSA 2 TA 2 THA 2 THREE-CIRCLE
  ALTERNATE I 2 TTA 2 TTHA 2 TWO-CIRCLE ALTERNATE I 4 II 2 U 2 UU 2 VA 2 VOCALIC L 3 LL 3 R 3 RR 2
  YA 1 REPETITION MARK-1 2 MARK-2 2 MARK-3 1 SECTION MARK DOUBLE RING 5 WITH RAYS 3 WITH CIRCLES AND
  FOUR ENCLOSURES 6 RAYS 6 TWO ENCLOSURES 4 DOUBLE CRESCENTS 4 QUADRUPLE CRESCENTS 4 RAYS AND DOTTED
  CRESCENTS 7 DOUBLE CRESCENTS 7 TRIPLE CRESCENTS 4 SEPTUPLE CRESCENTS 4 TRIDENT AND DOTTED
  CRESCENTS 6 U-SHAPED ORNAMENTS 4 TRIPLE CRESCENTS 1 SEPARATOR BAR 2 DOT 1 SIGN ANUSVARA 2
  CANDRABINDU 2 NUKTA 2 SIDDHAM 2 VIRAMA 2 VISARGA 1 VOWEL SIGN AA 3 AI 3 ALTERNATE U 4 UU 3 AU 3 E
  3 I 3 II 3 O 3 U 3 UU 3 VOCALIC R 4 RR 0 SIDEWAYS BLACK DOWN POINTING INDEX 2 LEFT POINTING INDEX
  2 RIGHT POINTING INDEX 2 UP POINTING INDEX 1 WHITE DOWN POINTING INDEX 2 LEFT POINTING INDEX 2
  RIGHT POINTING INDEX 2 UP POINTING INDEX 0 SIGN OF THE HORNS 0 SIGNWRITING AIR BLOW SMALL
  ROTATIONS 2 BLOWING OUT 2 SUCK SMALL ROTATIONS 2 SUCKING IN 1 BREATH EXHALE 2 INHALE 1 BRUSH
  BETWEEN 2 MULTIPLE 2 SINGLE 1 CHEEKS NEUTRAL 2 PUFFED 2 SUCKED 1 COLON 1 COMMA 1 DREAMY EYEBROWS
  DOWN NEUTRAL 3 NEUTRAL DOWN 4 UP 3 UP NEUTRAL 1 DYNAMIC ARROWHEAD LARGE 3 SMALL 2 EVERY OTHER TIME
  2 FAST 2 GRADUAL 2 RELAXED 2 SIMULTANEOUS 3 ALTERNATING 2 SLOW 2 TENSE 1 EARS 1 EXCITEMENT 1 EYE
  BLINK MULTIPLE 3 SINGLE 2 WINK 1 EYEBROWS STRAIGHT DOWN 3 NEUTRAL 3 UP 1 EYEGAZE-FLOORPLANE CURVED
  2 STRAIGHT 3 ALTERNATING 3 DOUBLE 1 EYEGAZE-WALLPLANE CIRCLING 2 CURVED 2 STRAIGHT 3 ALTERNATING 3
  DOUBLE 1 EYELASHES DOWN 2 FLUTTERING 2 UP 1 EYES CLOSED 2 HALF CLOSED 3 OPEN 2 OPEN 2 SQUEEZED 2
  WIDE OPEN 2 WIDENING MOVEMENT 1 FACE DIRECTION POSITION NOSE FORWARD TILTING 5 UP OR DOWN 8
  TILTING 1 FILL MODIFIER-2 2 MODIFIER-3 2 MODIFIER-4 2 MODIFIER-5 2 MODIFIER-6 1 FINGER 1 FLICK
  LARGE MULTIPLE 3 SINGLE 2 SEQUENTIAL 2 SMALL MULTIPLE 3 SINGLE 1 FLOORPLANE SHOULDER HIP MOVE 1
  FOREHEAD CONTACT 2 NEUTRAL 2 WRINKLED 1 FULL STOP 1 GRASP BETWEEN 2 MULTIPLE 2 SINGLE 1 HAIR 1
  HAND-ANGLE 2 INDEX 3 MIDDLE LITTLE 4 RING 3 RING LITTLE 5 OUT 3 THUMB 4 IN 4 OUT 2 LITTLE INDEX 4
  THUMB INDEX THUMB 7 OUT 3 UP 2 MIDDLE RING LITTLE 5 IN 5 OUT 2 RING DOWN MIDDLE THUMB INDEX CROSS
  3 LITTLE 1 HAND-CIRCLE 2 INDEX 3 BENT 3 HINGE 3 MIDDLE 4 CROSS LITTLE 4 CROSSED 4 LITTLE 4 RING 4
  THUMB 3 RING LITTLE 2 LITTLE INDEX 3 UP 2 MIDDLE RING LITTLE 5 BENT 3 UP 2 RING LITTLE 1 HAND-CLAW
  2 FOUR FINGERS CONJOINED 2 INDEX THUMB CURVE THUMB INSIDE 2 MIDDLE RING LITTLE CONJOINED 6 SIDE 2
  NO THUMB 2 THUMB FORWARD 3 SIDE 1 HAND-CUP 2 FIVE FINGERS SPREAD 5 OPEN 2 INDEX 3 RING LITTLE 3
  THUMB 4 OPEN 2 MIDDLE RING LITTLE 2 NO THUMB 2 OPEN 3 NO THUMB 3 THUMB FORWARD 4 SIDE 2 THUMB
  FORWARD 3 SIDE 1 HAND-CURLICUE 2 INDEX RING LITTLE ON 2 MIDDLE RING LITTLE ON 2 OPEN 1 HAND-FIST 2
  FOUR FINGERS CONJOINED BENT 2 HEEL 2 INDEX 3 BENT 4 OVER MIDDLE 3 CUPPED 3 HINGED 4 LOW 4 MIDDLE
  UP 6 THUMB SIDE 3 MIDDLE 4 BENT 5 THUMB STRAIGHT 4 CONJOINED 5 CUPPED 6 THUMB FORWARD 5 HINGED 6
  THUMB SIDE 5 INDEX BENT 5 MIDDLE BENT 5 THUMB FORWARD 6 SIDE 7 BENT 7 CONJOINED 4 CROSS LITTLE 4
  CROSSED 5 THUMB SIDE 4 HINGED 5 SPREAD THUMB SIDE 4 LITTLE 4 RAISED KNUCKLES 4 RING 5 BENT 5
  CONJOINED 4 STRAIGHT THUMB BENT 4 THUMB 5 ANGLED 6 OUT 5 BENT 5 CIRCLED 5 CONJOINED HINGED 5
  CUPPED 5 HINGED 5 HOOKED 4 UP SPREAD THUMB FORWARD 3 RAISED KNUCKLE 3 RING LITTLE 3 THUMB ANGLED
  IN MIDDLE UP 5 OUT MIDDLE UP 4 CIRCLE 4 CIRCLED MIDDLE UP 4 CUPPED MIDDLE UP 4 CURLICUE 4 CURVE
  THUMB INSIDE 6 UNDER 4 FORWARD INDEX BENT 6 STRAIGHT 4 HOOK 4 HOOKED MIDDLE HINGED 6 UP 4 SIDE 5
  BOTH BENT 5 INDEX BENT 6 HINGE 5 THUMB BENT 6 CONJOINED 6 DIAGONAL 3 UP MIDDLE HINGED 6 THUMB
  CONJOINED 7 SIDE 2 LITTLE BENT 3 DOWN 4 OTHERS CIRCLED 4 RIPPLE CURVED 5 STRAIGHT 3 INDEX 4 THUMB
  3 RAISED KNUCKLE 3 THUMB 3 TOUCHES THUMB 3 UP 2 MIDDLE BENT OVER INDEX 3 DOWN 3 LITTLE 3 RAISED
  KNUCKLE 3 RING LITTLE 3 THUMB ANGLED INDEX UP 5 OUT INDEX CROSSED 7 UP 4 CIRCLED INDEX HINGED 6 UP
  4 CUPPED INDEX UP 4 HOOKED INDEX UP 4 LITTLE 3 UP 4 THUMB SIDE 2 RING DOWN 3 INDEX 3 LITTLE 3
  MIDDLE 4 CONJOINED 4 RAISED KNUCKLES 3 RAISED KNUCKLE 3 THUMB 3 UP 2 THUMB 3 BETWEEN INDEX MIDDLE
  6 STRAIGHT 4 MIDDLE RING 4 RING LITTLE 3 FORWARD 3 HEEL 3 OVER FOUR RAISED KNUCKLES 4 TWO FINGERS
  3 SIDE BENT 4 CONJOINED 4 DIAGONAL 3 UNDER FOUR FINGERS 4 INDEX BENT 4 LITTLE UP 4 THREE FINGERS 4
  TWO FINGERS 1 HAND-FLAT 2 BETWEEN PALM FACINGS 2 FIVE FINGERS SPREAD 5 BENT 5 FOUR BENT 5 HINGED 6
  NO THUMB 6 THUMB SIDE 5 THUMB FORWARD 2 FOUR FINGERS 4 BENT 4 CONJOINED 5 SPLIT 4 HINGED 2 HEEL 3
  FIVE FINGERS SPREAD 6 BENT 6 FOUR BENT 3 THUMB SIDE 2 SPLIT CENTRE 4 THUMB SIDE 6 BENT 3 INDEX
  THUMB SIDE 3 LITTLE 2 THUMB BENT 3 FORWARD 3 SIDE 1 HAND-HINGE 2 FIVE FINGERS SPREAD OPEN 2 FOUR
  FINGERS CONJOINED 2 INDEX 3 HINGED 3 MIDDLE LITTLE 4 RING 5 CONJOINED 3 RING LITTLE 3 THUMB 4
  LARGE 4 OPEN 4 SIDE 4 SMALL 2 LITTLE 3 INDEX 4 THUMB 3 THUMB 2 MIDDLE 3 RING LITTLE 2 NO THUMB 2
  OPEN 3 NO THUMB 3 THUMB FORWARD 4 SIDE 2 RING 3 DOWN INDEX THUMB HOOK MIDDLE 2 SMALL 2 THUMB
  BETWEEN MIDDLE RING 3 SIDE 4 TOUCHING INDEX 1 HAND-HOOK 2 CURLICUE 2 INDEX RING LITTLE IN 5 OUT 5
  UNDER 2 MIDDLE RING LITTLE CONJOINED 6 IN 6 OUT 3 THUMB 2 RING THUMB 1 HAND-OVAL 2 FIVE FINGERS
  SPREAD 2 INDEX 2 LITTLE UP 2 NO THUMB 2 RING LITTLE 2 THUMB FORWARD 3 SIDE 1 HEAD 2 MOVEMENT
  CIRCLE 2 MOVEMENT-FLOORPLANE CURVE 3 STRAIGHT 2 MOVEMENT-WALLPLANE CURVE 3 STRAIGHT 3 TILT 2 RIM 1
  LIMB COMBINATION 2 LENGTH-1 2 LENGTH-2 2 LENGTH-3 2 LENGTH-4 2 LENGTH-5 2 LENGTH-6 2 LENGTH-7 1
  LIP LOWER OVER UPPER 2 UPPER OVER LOWER 1 LIPS PRESSED TOGETHER 1 LOCATION DEPTH 2 HEAD NECK 2
  HEIGHT 2 LIMBS DIGITS 2 TORSO 2 WIDTH 1 LOCATION-FLOORPLANE SPACE 1 LOCATION-WALLPLANE SPACE 1
  MOUTH CLOSED CONTACT 3 FORWARD 3 NEUTRAL 2 CORNERS 2 FROWN 3 OPEN 3 WRINKLED 2 KISS 3 FORWARD 3
  WRINKLED 2 OPEN CIRCLE 3 FORWARD 3 OVAL 4 WRINKLED 4 YAWN 3 RECTANGLE 4 WRINKLED 4 YAWN 3 WRINKLED
  2 SMILE 3 OPEN 3 WRINKLED 2 TENSE 3 FORWARD 3 SUCKED 2 WRINKLES DOUBLE 3 SINGLE 1
  MOVEMENT-DIAGONAL AWAY LARGE 3 LARGEST 3 MEDIUM 3 SMALL 2 BETWEEN AWAY LARGE 4 LARGEST 4 MEDIUM 4
  SMALL 3 TOWARDS LARGE 4 LARGEST 4 MEDIUM 4 SMALL 2 TOWARDS LARGE 3 LARGEST 3 MEDIUM 3 SMALL 1
  MOVEMENT-FLOORPLANE ARM CIRCLE HITTING WALL LARGE DOUBLE 7 SINGLE 6 MEDIUM DOUBLE 7 SINGLE 6 SMALL
  DOUBLE 7 SINGLE 2 BEND 2 BOX LARGE 3 MEDIUM 3 SMALL 2 CHECK 2 CORNER LARGE 3 MEDIUM 3 SMALL 2
  CROSS 2 CURVE COMBINED 3 HITTING CEILING LARGE 5 SMALL 4 FLOOR LARGE 5 SMALL 3 LARGE 3 LARGEST 3
  MEDIUM 3 SMALL 2 DOUBLE ALTERNATING 4 WRIST FLEX 3 STRAIGHT 3 WRIST FLEX 2 FINGER CIRCLES HITTING
  WALL DOUBLE 6 SINGLE 3 CONTACT 2 HUMP HITTING CEILING LARGE DOUBLE 6 TRIPLE 5 SMALL DOUBLE 6
  TRIPLE 4 FLOOR LARGE DOUBLE 5 SMALL DOUBLE 5 TRIPLE LARGE TRIPLE 6 SMALL TRIPLE 3 SMALL 2 JAW 2
  LOOP HITTING CEILING LARGE DOUBLE 6 SINGLE 5 SMALL DOUBLE 6 SINGLE 4 FLOOR LARGE DOUBLE 6 SINGLE 5
  SMALL DOUBLE 6 SINGLE 3 SMALL 2 PEAKS LARGE 3 MEDIUM 3 SMALL 2 SHAKING PARALLEL 2 SINGLE STRAIGHT
  LARGE 4 LARGEST 4 MEDIUM 4 SMALL 3 WRIST FLEX 2 TRIPLE ALTERNATING MOVEMENT 4 WRIST FLEX 3
  STRAIGHT MOVEMENT 3 WRIST FLEX 2 WAVE HITTING CEILING LARGE 5 SMALL 4 FLOOR LARGE 5 SMALL 3 LARGE
  3 SMALL 3 SNAKE 2 WRIST CIRCLE HITTING WALL DOUBLE 6 SINGLE 2 ZIGZAG LARGE 3 MEDIUM 3 SMALL 1
  MOVEMENT-HINGE DOWN SEQUENTIAL 2 SIDE TO SIDE SCISSORS 2 UP DOWN ALTERNATING LARGE 5 SMALL 4 LARGE
  4 SMALL 3 SEQUENTIAL 1 MOVEMENT-WALLPLANE ARM CIRCLE MEDIUM DOUBLE 5 SINGLE 4 SMALL DOUBLE 5
  SINGLE 2 BEND LARGE 3 MEDIUM 3 SMALL 2 BOX LARGE 3 MEDIUM 3 SMALL 2 CHECK LARGE 3 MEDIUM 3 SMALL 2
  CORNER LARGE 3 MEDIUM 3 ROTATION 3 SMALL 2 CROSS 2 CURVE HALF-CIRCLE LARGE 4 LARGEST 4 MEDIUM 4
  SMALL 3 HITTING CHEST 4 FRONT WALL 3 QUARTER LARGE 4 LARGEST 4 MEDIUM 4 SMALL 3 THEN STRAIGHT 3
  THREE-QUARTER CIRCLE MEDIUM 5 SMALL 2 CURVED CROSS MEDIUM 4 SMALL 2 DOUBLE ALTERNATING 4 WRIST
  FLEX 3 STRAIGHT 3 WRIST FLEX 2 FINGER CIRCLES DOUBLE 4 SINGLE 3 CONTACT 2 HUMP HITTING CHEST 4
  FRONT WALL 3 LARGE 3 MEDIUM 3 SMALL 2 JAW 2 LOOP HITTING CHEST 4 FRONT WALL 3 LARGE 3 MEDIUM 3
  SMALL 4 DOUBLE 2 PEAKS LARGE 3 MEDIUM 3 SMALL 2 SHAKING 2 SINGLE STRAIGHT LARGE 4 LARGEST 4 MEDIUM
  4 SMALL 3 WRIST FLEX 2 TRIPLE ALTERNATING 4 WRIST FLEX 3 STRAIGHT MOVEMENT 3 WRIST FLEX 2 WAVE
  CURVE DOUBLE LARGE 5 MEDIUM 5 SMALL 4 TRIPLE LARGE 5 MEDIUM 5 SMALL 3 DIAGONAL PATH LARGE 5 MEDIUM
  5 SMALL 3 HITTING CHEST 4 FRONT WALL 2 WRIST CIRCLE FRONT DOUBLE 5 SINGLE 2 ZIGZAG LARGE 3 MEDIUM
  3 SMALL 1 NECK 1 NOSE CONTACT 2 NEUTRAL 2 WIGGLES 2 WRINKLES 1 PARENTHESIS 1 ROTATION MODIFIER-10
  2 MODIFIER-11 2 MODIFIER-12 2 MODIFIER-13 2 MODIFIER-14 2 MODIFIER-15 2 MODIFIER-16 2 MODIFIER-2 2
  MODIFIER-3 2 MODIFIER-4 2 MODIFIER-5 2 MODIFIER-6 2 MODIFIER-7 2 MODIFIER-8 2 MODIFIER-9 1
  ROTATION-FLOORPLANE ALTERNATING 3 HITTING CEILING 4 FLOOR 2 DOUBLE 3 HITTING CEILING 4 FLOOR 2
  SINGLE 3 HITTING CEILING 4 FLOOR 1 ROTATION-WALLPLANE ALTERNATE 2 ALTERNATING HITTING CHEST 4
  FRONT WALL 2 DOUBLE 3 HITTING CHEST 4 FRONT WALL 2 SINGLE 3 HITTING CHEST 4 FRONT WALL 1 RUB
  BETWEEN 2 MULTIPLE 2 SINGLE 1 SEMICOLON 1 SHOULDER HIP POSITIONS 3 SPINE 2 TILTING FROM WAIST 1
  SQUEEZE FLICK ALTERNATING 2 LARGE MULTIPLE 3 SINGLE 2 SEQUENTIAL 2 SMALL MULTIPLE 3 SINGLE 1
  STRIKE BETWEEN 2 MULTIPLE 2 SINGLE 1 SURFACE BETWEEN 2 SYMBOLS 1 TEETH 2 BITE LIPS 2 MOVEMENT 2 ON
  LIPS 4 MOVEMENT 3 TONGUE 4 MOVEMENT 1 TENSE CHEEKS HIGH 3 LOW 3 MIDDLE 1 TONGUE CENTRE INSIDE
  MOUTH 3 STICKING OUT 2 INSIDE MOUTH RELAXED 2 LICKING LIPS 2 MOVES AGAINST CHEEK 2 STICKING OUT
  FAR 2 TIP BETWEEN LIPS 3 TOUCHING INSIDE MOUTH 1 TORSO-FLOORPLANE TWISTING 1 TORSO-WALLPLANE
  CURVED BEND 2 STRAIGHT STRETCH 1 TOUCH BETWEEN 2 MULTIPLE 2 SINGLE 1 TRAVEL-FLOORPLANE
  ROTATION-FLOORPLANE ALTERNATING 3 DOUBLE 3 SINGLE 2 ROTATION-WALLPLANE ALTERNATING 3 DOUBLE 3
  SINGLE 2 SHAKING 1 TRAVEL-WALLPLANE ARM SPIRAL DOUBLE 4 SINGLE 4 TRIPLE 2 ROTATION-FLOORPLANE
  ALTERNATING 3 DOUBLE 3 SINGLE 2 ROTATION-WALLPLANE ALTERNATING 3 DOUBLE 3 SINGLE 2 SHAKING 1 UPPER
  BODY TILTING FROM HIP JOINTS 1 WALLPLANE SHOULDER HIP MOVE 0 SILHOUETTE OF JAPAN 0 SIMILAR ABOVE
  GREATER-THAN ABOVE EQUALS SIGN 2 LESS-THAN ABOVE EQUALS SIGN 1 MINUS SIMILAR 1 OR GREATER-THAN 2
  LESS-THAN 0 SINE WAVE 0 SINGLE CHARACTER INTRODUCER 1 GRAPHIC CHARACTER INTRODUCER 1
  HIGH-REVERSED-9 QUOTATION MARK 1 LEFT-POINTING ANGLE QUOTATION MARK 1 LOW-9 QUOTATION MARK 1
  RIGHT-POINTING ANGLE QUOTATION MARK 1 SHIFT THREE 2 TWO 0 SINGLE-SHIFT-2 0 SINGLE-SHIFT-3 0
  SINHALA ARCHAIC DIGIT EIGHT 3 FIVE 3 FOUR 3 NINE 3 ONE 3 SEVEN 3 SIX 3 THREE 3 TWO 2 NUMBER EIGHTY
  3 FIFTY 3 FORTY 3 NINETY 3 ONE HUNDRED 4 THOUSAND 3 SEVENTY 3 SIXTY 3 TEN 3 THIRTY 3 TWENTY 1
  LETTER AAYANNA 2 AEEYANNA 2 AEYANNA 2 AIYANNA 2 ALPAPRAANA BAYANNA 3 CAYANNA 3 DAYANNA 3 DDAYANNA
  3 GAYANNA 3 JAYANNA 3 KAYANNA 3 PAYANNA 3 TAYANNA 3 TTAYANNA 2 AMBA BAYANNA 2 AUYANNA 2 AYANNA 2
  DANTAJA LAYANNA 3 NAYANNA 3 SAYANNA 2 EEYANNA 2 EYANNA 2 FAYANNA 2 HAYANNA 2 IIYANNA 2 ILUUYANNA 2
  ILUYANNA 2 IRUUYANNA 2 IRUYANNA 2 IYANNA 2 KANTAJA NAASIKYAYA 2 MAHAAPRAANA BAYANNA 3 CAYANNA 3
  DAYANNA 3 DDAYANNA 3 GAYANNA 3 JAYANNA 3 KAYANNA 3 PAYANNA 3 TAYANNA 3 TTAYANNA 2 MAYANNA 2
  MUURDHAJA LAYANNA 3 NAYANNA 3 SAYANNA 2 OOYANNA 2 OYANNA 2 RAYANNA 2 SANYAKA DAYANNA 3 DDAYANNA 3
  GAYANNA 3 JAYANNA 2 TAALUJA NAASIKYAYA 3 SANYOOGA NAAKSIKYAYA 3 SAYANNA 2 UUYANNA 2 UYANNA 2
  VAYANNA 2 YAYANNA 1 LITH DIGIT EIGHT 3 FIVE 3 FOUR 3 NINE 3 ONE 3 SEVEN 3 SIX 3 THREE 3 TWO 3 ZERO
  1 PUNCTUATION KUNDDALIYA 1 SIGN AL-LAKUNA 2 ANUSVARAYA 2 CANDRABINDU 2 VISARGAYA 1 VOWEL SIGN
  AELA-PILLA 3 DIGA AEDA-PILLA 4 GAETTA-PILLA 4 GAYANUKITTA 4 IS-PILLA 4 KOMBUVA 4 PAA-PILLA 3
  GAETTA-PILLA 3 GAYANUKITTA 3 KETTI AEDA-PILLA 4 IS-PILLA 4 PAA-PILLA 3 KOMBU DEKA 3 KOMBUVA 4 HAA
  AELA-PILLA 5 DIGA AELA-PILLA 5 GAYANUKITTA 0 SIX PETALLED BLACK AND WHITE FLORETTE 1 POINTED BLACK
  STAR 2 PINWHEEL STAR 2 STAR WITH MIDDLE DOT 0 SIX-PER-EM SPACE 0 SIXTEEN POINTED ASTERISK 0
  SKATEBOARD 0 SKI AND SKI BOOT 0 SKIER 0 SKULL 1 AND CROSSBONES 0 SKUNK 0 SLANTED EQUAL TO OR
  GREATER-THAN 5 WITH DOT INSIDE 4 LESS-THAN 5 WITH DOT INSIDE 1 NORTH ARROW WITH HOOKED HEAD 4
  HORIZONTAL TAIL 0 SLAVONIC ASTERISK 0 SLED 0 SLEEPING ACCOMMODATION 1 FACE 1 SYMBOL 0 SLEEPY FACE
  0 SLEUTH OR SPY 0 SLICE OF PIZZA 0 SLIGHTLY FROWNING FACE 1 SMILING FACE 0 SLOPE 0 SLOPING LARGE
  AND 2 OR 0 SLOT MACHINE 0 SLOTH 0 SMALL AIRPLANE 1 AMPERSAND 1 ASTERISK 1 BLUE DIAMOND 1 COLON 1
  COMMA 1 COMMERCIAL AT 1 CONTAINS AS MEMBER 2 WITH OVERBAR 3 VERTICAL BAR AT END OF HORIZONTAL
  STROKE 1 DOLLAR SIGN 1 ELEMENT OF 3 WITH OVERBAR 4 VERTICAL BAR AT END OF HORIZONTAL STROKE 1 EM
  DASH 1 EQUALS SIGN 1 EXCLAMATION MARK 1 FULL STOP 1 GREATER-THAN SIGN 1 HYPHEN-MINUS 1 IDEOGRAPHIC
  COMMA 1 LEFT CURLY BRACKET 2 PARENTHESIS 2 TORTOISE SHELL BRACKET 1 LESS-THAN SIGN 1 NUMBER SIGN 1
  ORANGE DIAMOND 1 PERCENT SIGN 1 PLUS SIGN 1 QUESTION MARK 1 REVERSE SOLIDUS 1 RIGHT CURLY BRACKET
  2 PARENTHESIS 2 TORTOISE SHELL BRACKET 1 ROMAN NUMERAL EIGHT 3 ELEVEN 3 FIFTY 3 FIVE 4 HUNDRED 3
  FOUR 3 NINE 3 ONE 4 HUNDRED 4 THOUSAND 3 SEVEN 3 SIX 3 TEN 3 THREE 3 TWELVE 3 TWO 1 SEMICOLON 1
  TILDE 1 TWO DOTS OVER ONE DOT PUNCTUATION 1 VEE WITH UNDERBAR 0 SMALLER THAN 2 OR EQUAL TO 0 SMASH
  PRODUCT 0 SMILE 0 SMILING CAT FACE WITH HEART-SHAPED EYES 4 OPEN MOUTH 1 FACE WITH HALO 3
  HEART-SHAPED EYES 3 HORNS 3 OPEN MOUTH 5 AND COLD SWEAT 6 SMILING EYES 6 TIGHTLY-CLOSED EYES 3
  SMILING EYES 5 AND HAND COVERING MOUTH 6 THREE HEARTS 3 SUNGLASSES 3 TEAR 0 SMIRKING FACE 0
  SMOKING SYMBOL 0 SNAIL 0 SNAKE 0 SNEEZING FACE 0 SNOW CAPPED MOUNTAIN 0 SNOWBOARDER 0 SNOWFLAKE 0
  SNOWMAN 1 WITHOUT SNOW 0 SO 0 SOCCER BALL 0 SOCKS 0 SOFT HYPHEN 1 ICE CREAM 1 SHELL FLOPPY DISK 0
  SOFTBALL 0 SOFTWARE-FUNCTION SYMBOL 0 SOGDIAN COMBINING CURVE ABOVE 3 BELOW 2 DOT ABOVE 3 BELOW 2
  HOOK ABOVE 3 BELOW 2 LONG HOOK BELOW 2 RESH BELOW 2 STROKE BELOW 2 TWO DOTS ABOVE 4 BELOW 1
  INDEPENDENT SHIN 1 LETTER ALEPH 2 AYIN 2 BETH 2 FETH 2 GIMEL 2 HE 2 HETH 2 KAPH 2 LAMEDH 2 LESH 2
  MEM 2 NUN 2 PE 2 RESH-AYIN 2 SADHE 2 SAMEKH 2 SHIN 2 TAW 2 WAW 2 YODH 2 ZAYIN 1 NUMBER ONE 3
  HUNDRED 2 TEN 2 TWENTY 1 PUNCTUATION CIRCLE WITH DOT 2 HALF CIRCLE WITH DOT 2 TWO CIRCLES WITH
  DOTS 3 VERTICAL BARS 5 WITH DOTS 0 SOH 0 SOLID QUILT SQUARE ORNAMENT 4 IN BLACK SQUARE 0 SOLIDUS 1
  WITH OVERBAR 0 SOM SIGN 0 SOON WITH RIGHTWARDS ARROW ABOVE 0 SORA SOMPENG DIGIT EIGHT 3 FIVE 3
  FOUR 3 NINE 3 ONE 3 SEVEN 3 SIX 3 THREE 3 TWO 3 ZERO 2 LETTER AH 3 BAH 3 CAH 3 DAH 3 EEH 3 EH 3
  GAH 3 HAH 3 IH 3 JAH 3 KAH 3 LAH 3 MAE 3 MAH 3 NAH 3 NGAH 3 NYAH 3 OH 3 PAH 3 RAH 3 SAH 3 TAH 3 UH
  3 VAH 3 YAH 0 SOS 0 SOUND RECORDING COPYRIGHT 0 SOUTH EAST ARROW 3 AND SOUTH WEST ARROW 3 CROSSING
  NORTH EAST ARROW 3 TO CORNER 3 WITH HOOK 2 BLACK ARROW 2 DOUBLE ARROW 2 POINTING BUD 3 LEAF 3 VINE
  LEAF 2 SANS-SERIF ARROW 2 TRIANGLE-HEADED ARROW 4 TO BAR 2 WHITE ARROW 1 WEST ARROW 3 AND NORTH
  WEST ARROW 3 WITH HOOK 2 BLACK ARROW 2 DOUBLE ARROW 2 POINTING BUD 3 LEAF 3 VINE LEAF 2 SANS-SERIF
  ARROW 2 TRIANGLE-HEADED ARROW 4 TO BAR 2 WHITE ARROW 0 SOYOMBO CLUSTER-INITIAL LETTER LA 3 RA 3 SA
  3 SHA 1 FINAL CONSONANT SIGN -A 4 B 4 D 4 G 4 K 4 L 4 M 4 N 4 NG 4 R 4 S 4 SH 1 GEMINATION MARK 1
  HEAD MARK WITH MOON AND SUN 7 AND FLAME 8 TRIPLE FLAME 1 LETTER -A 2 A 2 BA 2 BHA 2 CA 2 CHA 2 DA
  2 DDA 2 DDHA 2 DHA 2 DZA 2 GA 2 GHA 2 HA 2 JA 2 JHA 2 KA 2 KHA 2 KSSA 2 LA 2 MA 2 NA 2 NGA 2 NNA 2
  NYA 2 PA 2 PHA 2 RA 2 SA 2 SHA 2 SSA 2 TA 2 THA 2 TSA 2 TSHA 2 TTA 2 TTHA 2 VA 2 YA 2 ZA 2 ZHA 1
  MARK DOUBLE SHAD 2 PLUTA 2 SHAD 2 TSHEG 1 SIGN ANUSVARA 2 JIHVAMULIYA 2 UPADHMANIYA 2 VISARGA 1
  SUBJOINER 1 TERMINAL MARK-1 2 MARK-2 1 VOWEL LENGTH MARK 2 SIGN AI 3 AU 3 E 3 I 3 O 3 OE 3 U 3 UE
  3 VOCALIC L 4 R 0 SP 0 SPA 0 SPACE 0 SPAGHETTI 0 SPARKLE 0 SPARKLES 0 SPARKLING HEART 0
  SPEAK-NO-EVIL MONKEY 0 SPEAKER 1 WITH CANCELLATION STROKE 2 ONE SOUND WAVE 2 THREE SOUND WAVES 0
  SPEAKING HEAD IN SILHOUETTE 0 SPEECH BALLOON 0 SPEEDBOAT 0 SPESMILO SIGN 0 SPHERICAL ANGLE 2
  OPENING LEFT 3 UP 0 SPIDER 1 WEB 0 SPIRAL CALENDAR PAD 1 NOTE PAD 1 SHELL 0 SPLASHING SWEAT SYMBOL
  0 SPONGE 0 SPOOL OF THREAD 0 SPOON 0 SPORTS MEDAL 0 SPOUTING WHALE 0 SQUARE A OVER M 1 AARU 1 AM 1
  ANPEA 1 APAATO 1 ARUHUA 1 AU 1 BAARERU 1 BAR 1 BEETA 1 BIRU 1 BORUTO 1 BQ 1 BUSSYERU 1 C OVER KG 1
  CAL 1 CAP 1 CC 1 CD 1 CM 2 CUBED 2 SQUARED 1 CO 1 CORPORATION 1 CUP 1 DA 1 DAASU 1 DB 1 DESI 1 DJ
  1 DL 1 DM 2 CUBED 2 SQUARED 1 DORU 1 EEKAA 1 ERA NAME HEISEI 3 MEIZI 3 REIWA 3 SYOUWA 3 TAISYOU 1
  ERG 1 ESUKUUDO 1 EV 1 FM 1 FOOT 1 FOUR CORNERS 1 GAL 1 GANMA 1 GARON 1 GB 1 GHZ 1 GIGA 1 GINII 1
  GIRUDAA 1 GPA 1 GURAMU 1 GURAMUTON 1 GY 1 HA 1 HAITU 1 HEKUTAARU 1 HERUTU 1 HG 1 HIRAGANA HOKA 1
  HON 1 HOON 1 HOORU 1 HP 1 HPA 1 HUARADDO 1 HUIITO 1 HURAN 1 HZ 1 IMAGE OF 3 OR EQUAL TO 4 NOT
  EQUAL TO 1 IN 1 ININGU 1 INTI 1 IU 1 K OHM 1 KA 1 KAIRI 1 KARATTO 1 KARORII 1 KB 1 KCAL 1 KEESU 1
  KG 1 KHZ 1 KIRO 1 KIROGURAMU 1 KIROMEETORU 1 KIROWATTO 1 KK 1 KL 1 KM 2 CAPITAL 2 CUBED 2 SQUARED
  1 KOOPO 1 KORUNA 1 KPA 1 KT 1 KUROONE 1 KURUZEIRO 1 KV 1 KW 1 KYURII 1 LEFT OPEN BOX OPERATOR 1 LM
  1 LN 1 LOG 1 LOZENGE 1 LX 1 M CUBED 2 OHM 2 OVER S 4 SQUARED 2 SQUARED 1 MA 1 MAHHA 1 MAIKURO 1
  MAIRU 1 MANSYON 1 MARUKU 1 MB 2 SMALL 1 MEETORU 1 MEGA 1 MEGATON 1 MG 1 MHZ 1 MIKURON 1 MIL 1 MIRI
  1 MIRIBAARU 1 ML 1 MM 2 CUBED 2 SQUARED 1 MOL 1 MPA 1 MS 1 MU A 2 F 2 G 2 L 2 M 2 S 2 V 2 W 1 MV 2
  MEGA 1 MW 2 MEGA 1 NA 1 NANO 1 NF 1 NM 1 NOTTO 1 NS 1 NV 1 NW 1 ONSU 1 OOMU 1 OV 1 PA 2 AMPS 1
  PAASENTO 1 PAATU 1 PC 1 PEEZI 1 PENIHI 1 PENSU 1 PESO 1 PF 1 PH 1 PIASUTORU 1 PIKO 1 PIKURU 1 PM 1
  POINTO 1 PONDO 1 POSITION INDICATOR 1 PPM 1 PR 1 PS 1 PV 1 PW 1 RAD 2 OVER S 4 SQUARED 1 REMU 1
  RENTOGEN 1 RIGHT OPEN BOX OPERATOR 1 RIRA 1 RITTORU 1 ROOT 1 RUPII 1 RUUBURU 1 SAIKURU 1 SANTIIMU
  1 SENTI 1 SENTO 1 SIRINGU 1 SR 1 SV 1 TARGET 1 THZ 1 TON 1 UON 1 V OVER M 1 WATTO 1 WB 1 WITH
  BOTTOM HALF BLACK 2 CONTOURED OUTLINE 2 DIAGONAL CROSSHATCH FILL 2 HORIZONTAL FILL 2 LEFT HALF
  BLACK 2 LOWER LEFT DIAGONAL HALF BLACK 3 RIGHT DIAGONAL HALF BLACK 2 ORTHOGONAL CROSSHATCH FILL 2
  RIGHT HALF BLACK 2 TOP HALF BLACK 2 UPPER LEFT DIAGONAL HALF BLACK 4 TO LOWER RIGHT FILL 3 RIGHT
  DIAGONAL HALF BLACK 4 TO LOWER LEFT FILL 2 VERTICAL FILL 1 YAADO 1 YAARU 1 YUAN 0 SQUARED ASTERISK
  1 CJK UNIFIED IDEOGRAPH-4E00 3 IDEOGRAPH-4E09 3 IDEOGRAPH-4E2D 3 IDEOGRAPH-4E8C 3 IDEOGRAPH-4EA4 3
  IDEOGRAPH-518D 3 IDEOGRAPH-521D 3 IDEOGRAPH-524D 3 IDEOGRAPH-5272 3 IDEOGRAPH-53CC 3
  IDEOGRAPH-53F3 3 IDEOGRAPH-5408 3 IDEOGRAPH-5439 3 IDEOGRAPH-55B6 3 IDEOGRAPH-58F0 3
  IDEOGRAPH-591A 3 IDEOGRAPH-5929 3 IDEOGRAPH-5B57 3 IDEOGRAPH-5DE6 3 IDEOGRAPH-5F8C 3
  IDEOGRAPH-624B 3 IDEOGRAPH-6253 3 IDEOGRAPH-6295 3 IDEOGRAPH-6307 3 IDEOGRAPH-6355 3
  IDEOGRAPH-6599 3 IDEOGRAPH-65B0 3 IDEOGRAPH-6620 3 IDEOGRAPH-6708 3 IDEOGRAPH-6709 3
  IDEOGRAPH-6E80 3 IDEOGRAPH-6F14 3 IDEOGRAPH-7121 3 IDEOGRAPH-751F 3 IDEOGRAPH-7533 3
  IDEOGRAPH-7981 3 IDEOGRAPH-7A7A 3 IDEOGRAPH-7D42 3 IDEOGRAPH-89E3 3 IDEOGRAPH-8CA9 3
  IDEOGRAPH-8D70 3 IDEOGRAPH-904A 3 IDEOGRAPH-914D 1 CL 1 COOL 1 DOT OPERATOR 1 EIGHT K 1 FALLING
  DIAGONAL SLASH 1 FIVE POINT ONE 1 FOUR DOT PUNCTUATION 2 K 1 FREE 1 HC 1 HDR 1 HI-RES 1 HV 1 ID 1
  KATAKANA DE 2 KOKO 2 SA 1 KEY 1 LATIN CAPITAL LETTER A 4 B 4 C 4 D 4 E 4 F 4 G 4 H 4 I 4 J 4 K 4 L
  4 M 4 N 4 O 4 P 4 Q 4 R 4 S 4 T 4 U 4 V 4 W 4 X 4 Y 4 Z 2 SMALL LETTER D 1 LOGICAL AND 2 OR 1
  LOSSLESS 1 MINUS 1 MV 1 NEW 1 NG 1 OK 1 ONE HUNDRED TWENTY P 1 PLUS 1 PPV 1 RISING DIAGONAL SLASH
  1 SALTIRE 1 SD 1 SECOND SCREEN 1 SEVEN POINT ONE 1 SHV 1 SIXTY P 1 SMALL CIRCLE 1 SOS 1 SQUARE 1
  SS 1 THREE D 1 TIMES 1 TWENTY-TWO POINT TWO 1 TWO K 1 UHD 1 UP WITH EXCLAMATION MARK 1 VOD 1 VS 1
  WC 0 SQUAT BLACK RIGHTWARDS ARROW 0 SQUID 0 SS2 0 SS3 0 SSA 0 ST 0 STADIUM 0 STAFF OF AESCULAPIUS
  2 HERMES 0 STAMPED ENVELOPE 0 STANDING PERSON 0 STAR AND CRESCENT 1 EQUALS 1 OF DAVID 1 OPERATOR 1
  WITH LEFT HALF BLACK 2 RIGHT HALF BLACK 0 START OF GUARDED AREA 2 HEADING 2 PROTECTED AREA 2
  SELECTED AREA 2 STRING 2 TEXT 0 STATION 0 STATUE OF LIBERTY 0 STEAM LOCOMOTIVE 0 STEAMING BOWL 0
  STENOGRAPHIC FULL STOP 0 STETHOSCOPE 0 STICK FIGURE 2 LEANING LEFT 3 RIGHT 2 WITH ARMS RAISED 3
  DRESS 0 STOCK CHART 0 STOPWATCH 0 STRAIGHT RULER 0 STRAIGHTNESS 0 STRAWBERRY 0 STRESS OUTLINED
  WHITE STAR 0 STRICTLY EQUIVALENT TO 0 STRING TERMINATOR 0 STS 0 STUDIO MICROPHONE 0 STUFFED
  FLATBREAD 0 STUPA 0 STX 0 SUB 0 SUBSCRIPT EIGHT 1 EQUALS SIGN 1 FIVE 1 FOUR 1 LEFT PARENTHESIS 1
  MINUS 1 NINE 1 ONE 1 PLUS SIGN 1 RIGHT PARENTHESIS 1 SEVEN 1 SIX 1 THREE 1 TWO 1 ZERO 0 SUBSET
  ABOVE RIGHTWARDS ARROW 2 SUBSET 2 SUPERSET 1 OF 2 ABOVE ALMOST EQUAL TO 3 EQUALS SIGN 3 NOT EQUAL
  TO 3 TILDE OPERATOR 2 OR EQUAL TO 5 WITH DOT ABOVE 2 WITH NOT EQUAL TO 1 WITH DOT 2 MULTIPLICATION
  SIGN BELOW 2 PLUS SIGN BELOW 0 SUBSTITUTE 0 SUCCEEDS 1 ABOVE ALMOST EQUAL TO 2 EQUALS SIGN 2 NOT
  ALMOST EQUAL TO 3 EQUAL TO 2 SINGLE-LINE EQUALS SIGN 3 NOT EQUAL TO 1 BUT NOT EQUIVALENT TO 1 OR
  EQUAL TO 2 EQUIVALENT TO 1 UNDER RELATION 0 SUMMATION BOTTOM 1 TOP 1 WITH INTEGRAL 0 SUN 1 BEHIND
  CLOUD 1 WITH FACE 0 SUNDANESE AVAGRAHA 1 CONSONANT SIGN PAMINGKAL 3 PANYAKRA 3 PANYIKU 3 PASANGAN
  MA 4 WA 1 DIGIT EIGHT 2 FIVE 2 FOUR 2 NINE 2 ONE 2 SEVEN 2 SIX 2 THREE 2 TWO 2 ZERO 1 LETTER A 2
  AE 2 BA 2 BHA 2 CA 2 DA 2 E 2 EU 2 FA 2 FINAL K 3 M 2 GA 2 HA 2 I 2 JA 2 KA 2 KHA 2 LA 2 LEU 2 MA
  2 NA 2 NGA 2 NYA 2 O 2 PA 2 QA 2 RA 2 REU 2 SA 2 SYA 2 TA 2 U 2 VA 2 WA 2 XA 2 YA 2 ZA 1
  PUNCTUATION BINDU BA SATANGA 3 CAKRA 3 DA SATANGA 3 KA SATANGA 3 LEU SATANGA 3 PANGLONG 3 PURNAMA
  3 SURYA 1 SIGN PAMAAEH 2 PANGLAYAR 2 PANGWISAD 2 PANYECEK 2 VIRAMA 1 VOWEL SIGN PAMEPET 3
  PANAELAENG 3 PANEULEUNG 3 PANGHULU 3 PANOLONG 3 PANYUKU 0 SUNFLOWER 0 SUNRISE 1 OVER MOUNTAINS 0
  SUNSET OVER BUILDINGS 0 SUPERHERO 0 SUPERSCRIPT EIGHT 1 EQUALS SIGN 1 FIVE 1 FOUR 1 LATIN SMALL
  LETTER I 4 N 1 LEFT PARENTHESIS 1 MINUS 1 NINE 1 ONE 1 PLUS SIGN 1 RIGHT PARENTHESIS 1 SEVEN 1 SIX
  1 THREE 1 TWO 1 ZERO 0 SUPERSET ABOVE LEFTWARDS ARROW 2 SUBSET 2 SUPERSET 1 BESIDE AND JOINED BY
  DASH WITH SUBSET 2 SUBSET 1 OF 2 ABOVE ALMOST EQUAL TO 3 EQUALS SIGN 3 NOT EQUAL TO 3 TILDE
  OPERATOR 2 OR EQUAL TO 5 WITH DOT ABOVE 2 WITH NOT EQUAL TO 1 PRECEDING SOLIDUS 1 WITH DOT 2
  MULTIPLICATION SIGN BELOW 2 PLUS SIGN BELOW 0 SUPERVILLAIN 0 SURFACE INTEGRAL 0 SURFER 0 SUSHI 0
  SUSPENSION RAILWAY 0 SWAN 0 SWASH AMPERSAND ORNAMENT 0 SWIMMER 0 SWUNG DASH 0 SYLOTI NAGRI LETTER
  A 3 BHO 3 BO 3 CHO 3 CO 3 DDHO 3 DDO 3 DHO 3 DO 3 E 3 GHO 3 GO 3 HO 3 I 3 JHO 3 JO 3 KHO 3 KO 3 LO
  3 MO 3 NO 3 O 3 PHO 3 PO 3 RO 3 RRO 3 SO 3 THO 3 TO 3 TTHO 3 TTO 3 U 2 POETRY MARK-1 3 MARK-2 3
  MARK-3 3 MARK-4 2 SIGN ALTERNATE HASANTA 3 ANUSVARA 3 DVISVARA 3 HASANTA 2 VOWEL SIGN A 4 E 4 I 4
  OO 4 U 0 SYMBOL FOR ACKNOWLEDGE 2 BACKSPACE 2 BELL 2 CANCEL 2 CARRIAGE RETURN 2 DATA LINK ESCAPE 2
  DELETE 3 FORM TWO 2 DEVICE CONTROL FOUR 4 ONE 4 THREE 4 TWO 2 END OF MEDIUM 4 TEXT 4 TRANSMISSION
  5 BLOCK 2 ENQUIRY 2 ESCAPE 2 FILE SEPARATOR 2 FORM FEED 2 GROUP SEPARATOR 2 HORIZONTAL TABULATION
  2 LINE FEED 2 MARKS CHAPTER 2 NEGATIVE ACKNOWLEDGE 2 NEWLINE 2 NULL 2 RECORD SEPARATOR 2 SAMARITAN
  SOURCE 2 SHIFT IN 3 OUT 2 SPACE 2 START OF HEADING 4 TEXT 2 SUBSTITUTE 3 FORM TWO 2 SYNCHRONOUS
  IDLE 2 TYPE A ELECTRONICS 2 UNIT SEPARATOR 2 VERTICAL TABULATION 0 SYMMETRY 0 SYN 0 SYNAGOGUE 0
  SYNCHRONOUS IDLE 0 SYRIAC ABBREVIATION MARK 1 BARREKH 1 COLON SKEWED LEFT 3 RIGHT 1 CONTRACTION 1
  DOTTED ZLAMA ANGULAR 3 HORIZONTAL 1 END OF PARAGRAPH 1 ESASA ABOVE 2 BELOW 1 FEMININE DOT 1
  HARKLEAN ASTERISCUS 2 METOBELUS 2 OBELUS 1 HBASA ABOVE 2 BELOW 1 HBASA-ESASA DOTTED 1 HORIZONTAL
  COLON 1 LETTER ALAPH 2 BETH 2 DALATH 2 DOTLESS DALATH RISH 2 E 2 FINAL SEMKATH 2 GAMAL 3 GARSHUNI
  2 HE 2 HETH 2 KAPH 2 LAMADH 2 MALAYALAM BHA 3 JA 3 LLA 3 LLLA 3 NGA 3 NNA 3 NNNA 3 NYA 3 RA 3 SSA
  3 TTA 2 MIM 2 NUN 2 PE 2 PERSIAN BHETH 3 DHALATH 3 GHAMAL 2 QAPH 2 REVERSED PE 2 RISH 2 SADHE 2
  SEMKATH 2 SHIN 2 SOGDIAN FE 3 KHAPH 3 ZHAIN 2 SUPERSCRIPT ALAPH 2 TAW 2 TETH 3 GARSHUNI 2 WAW 2
  YUDH 3 HE 2 ZAIN 1 MUSIC 1 OBLIQUE LINE ABOVE 3 BELOW 1 PTHAHA ABOVE 2 BELOW 2 DOTTED 1 QUSHSHAYA
  1 RBASA ABOVE 2 BELOW 1 RUKKAKHA 1 RWAHA 1 SUBLINEAR COLON 3 SKEWED LEFT 4 RIGHT 2 FULL STOP 1
  SUPRALINEAR COLON 3 SKEWED LEFT 2 FULL STOP 1 THREE DOTS ABOVE 3 BELOW 1 TWO VERTICAL DOTS ABOVE 4
  BELOW 1 ZQAPHA ABOVE 2 BELOW 2 DOTTED 0 SYRINGE 0 T-REX 0 T-SHIRT 0 TAB 0 TABLE TENNIS PADDLE AND
  BALL 0 TACO 0 TAG AMPERSAND 1 APOSTROPHE 1 ASTERISK 1 CIRCUMFLEX ACCENT 1 COLON 1 COMMA 1
  COMMERCIAL AT 1 DIGIT EIGHT 2 FIVE 2 FOUR 2 NINE 2 ONE 2 SEVEN 2 SIX 2 THREE 2 TWO 2 ZERO 1 DOLLAR
  SIGN 1 EQUALS SIGN 1 EXCLAMATION MARK 1 FULL STOP 1 GRAVE ACCENT 1 GREATER-THAN SIGN 1
  HYPHEN-MINUS 1 LATIN CAPITAL LETTER A 4 B 4 C 4 D 4 E 4 F 4 G 4 H 4 I 4 J 4 K 4 L 4 M 4 N 4 O 4 P
  4 Q 4 R 4 S 4 T 4 U 4 V 4 W 4 X 4 Y 4 Z 2 SMALL LETTER A 4 B 4 C 4 D 4 E 4 F 4 G 4 H 4 I 4 J 4 K 4
  L 4 M 4 N 4 O 4 P 4 Q 4 R 4 S 4 T 4 U 4 V 4 W 4 X 4 Y 4 Z 1 LEFT CURLY BRACKET 2 PARENTHESIS 2
  SQUARE BRACKET 1 LESS-THAN SIGN 1 LOW LINE 1 NUMBER SIGN 1 PERCENT SIGN 1 PLUS SIGN 1 QUESTION
  MARK 1 QUOTATION MARK 1 REVERSE SOLIDUS 1 RIGHT CURLY BRACKET 2 PARENTHESIS 2 SQUARE BRACKET 1
  SEMICOLON 1 SOLIDUS 1 SPACE 1 TILDE 1 VERTICAL LINE 0 TAGALOG LETTER A 2 ARCHAIC RA 2 BA 2 DA 2 GA
  2 HA 2 I 2 KA 2 LA 2 MA 2 NA 2 NGA 2 PA 2 RA 2 SA 2 TA 2 U 2 WA 2 YA 1 SIGN PAMUDPOD 2 VIRAMA 1
  VOWEL SIGN I 3 U 0 TAGBANWA LETTER A 2 BA 2 DA 2 GA 2 I 2 KA 2 LA 2 MA 2 NA 2 NGA 2 PA 2 SA 2 TA 2
  U 2 WA 2 YA 1 VOWEL SIGN I 3 U 0 TAI LE LETTER A 3 AI 3 AUE 3 E 3 EE 3 EH 3 FA 3 HA 3 I 3 KA 3 KHA
  3 LA 3 MA 3 NA 3 NGA 3 O 3 OO 3 PA 3 PHA 3 QA 3 SA 3 TA 3 THA 3 TONE-2 3 TONE-3 3 TONE-4 3 TONE-5
  3 TONE-6 3 TSA 3 TSHA 3 U 3 UE 3 VA 3 XA 3 YA 1 THAM COMBINING CRYPTOGRAMMIC DOT 2 CONSONANT SIGN
  BA 4 FINAL NGA 4 HIGH RATHA OR LOW PA 4 LA TANG LAI 4 LOW PA 4 MA 4 MEDIAL LA 5 RA 4 SA 2 HORA
  DIGIT EIGHT 4 FIVE 4 FOUR 4 NINE 4 ONE 4 SEVEN 4 SIX 4 THREE 4 TWO 4 ZERO 2 LETTER A 3 BA 3 DA 3
  EE 3 GREAT SA 3 HIGH CA 4 CHA 4 FA 4 HA 4 KA 4 KHA 4 KXA 4 PA 4 PHA 4 RATHA 4 SA 4 SHA 4 SSA 4 TA
  4 THA 4 YA 3 I 3 II 3 LA 3 LAE 3 LLA 3 LOW CA 4 CHA 4 FA 4 HA 4 KA 4 KHA 4 KXA 4 PA 4 PHA 4 RATHA
  4 SA 4 TA 4 THA 4 YA 3 LUE 3 MA 3 NA 3 NGA 3 NYA 3 OO 3 RA 3 RANA 3 RATA 3 RUE 3 U 3 UU 3 WA 2
  SIGN CAANG 3 DOKMAI 3 HANG 3 HOY 3 KAAN 3 KAANKUU 3 KEOW 3 KHUEN TONE-3 4 TONE-4 4 TONE-5 3
  KHUEN-LUE KARAN 3 MAI KANG 5 LAI 4 SAM 4 YAMOK 3 RA HAAM 3 REVERSED ROTATED RANA 3 SAKOT 3 SATKAAN
  3 SATKAANKUU 3 SAWAN 3 TONE-1 3 TONE-2 3 WIANG 3 WIANGWAAK 2 THAM DIGIT EIGHT 4 FIVE 4 FOUR 4 NINE
  4 ONE 4 SEVEN 4 SIX 4 THREE 4 TWO 4 ZERO 2 VOWEL SIGN A 4 AA 4 AE 4 AI 4 E 4 I 4 II 4 MAI SAT 4 O
  4 OA ABOVE 5 BELOW 4 OO 4 OY 4 TALL AA 4 THAM AI 4 U 4 UE 4 UU 4 UUE 1 VIET LETTER HIGH BO 4 CHO 4
  CO 4 DO 4 FO 4 GO 4 HO 4 KHHO 4 KHO 4 KO 4 LO 4 MO 4 NGO 4 NO 4 NYO 4 O 4 PHO 4 PO 4 RO 4 SO 4 THO
  4 TO 4 VO 4 YO 3 LOW BO 4 CHO 4 CO 4 DO 4 FO 4 GO 4 HO 4 KHHO 4 KHO 4 KO 4 LO 4 MO 4 NGO 4 NO 4
  NYO 4 O 4 PHO 4 PO 4 RO 4 SO 4 THO 4 TO 4 VO 4 YO 2 MAI KANG 3 KHIT 2 SYMBOL HO HOI 3 KOI KOI 3
  KON 3 NUENG 3 SAM 2 TONE MAI EK 4 NUENG 4 SONG 4 THO 2 VOWEL AA 3 AM 3 AN 3 AUE 3 AY 3 E 3 I 3 IA
  3 O 3 U 3 UA 3 UE 3 UEA 0 TAKEOUT BOX 0 TAKRI ABBREVIATION SIGN 1 DIGIT EIGHT 2 FIVE 2 FOUR 2 NINE
  2 ONE 2 SEVEN 2 SIX 2 THREE 2 TWO 2 ZERO 1 LETTER A 2 AA 2 AI 2 ARCHAIC KHA 2 AU 2 BA 2 BHA 2 CA 2
  CHA 2 DA 2 DDA 2 DDHA 2 DHA 2 E 2 GA 2 GHA 2 HA 2 I 2 II 2 JA 2 JHA 2 KA 2 KHA 2 LA 2 MA 2 NA 2
  NGA 2 NNA 2 NYA 2 O 2 PA 2 PHA 2 RA 2 RRA 2 SA 2 SHA 2 TA 2 THA 2 TTA 2 TTHA 2 U 2 UU 2 VA 2 YA 1
  SIGN ANUSVARA 2 NUKTA 2 VIRAMA 2 VISARGA 1 VOWEL SIGN AA 3 AI 3 AU 3 E 3 I 3 II 3 O 3 U 3 UU 0
  TALLY MARK FIVE 2 ONE 0 TAMALE 0 TAMIL AND ODD SIGN 1 AS ABOVE SIGN 1 AU LENGTH MARK 1 CREDIT SIGN
  1 CURRENT SIGN 1 DAY SIGN 1 DEBIT SIGN 1 DIGIT EIGHT 2 FIVE 2 FOUR 2 NINE 2 ONE 2 SEVEN 2 SIX 2
  THREE 2 TWO 2 ZERO 1 DRY CULTIVATION SIGN 1 FRACTION DOWNSCALING FACTOR KIIZH 2 ONE EIGHTH 3
  EIGHTIETH 3 FIFTH 3 FORTIETH 3 HALF-1 3 HALF-2 3 ONE-HUNDRED-AND-SIXTIETH 3 QUARTER 3 SIXTEENTH-1
  3 SIXTEENTH-2 3 SIXTY-FOURTH 3 TENTH 3 THIRTY-SECOND 3 THREE-HUNDRED-AND-TWENTIETH 3 TWENTIETH 2
  THREE EIGHTIETHS 3 QUARTERS 3 SIXTEENTHS 3 SIXTY-FOURTHS 3 TWENTIETHS 1 IN POSSESSION SIGN 1 LAND
  SIGN 1 LETTER A 2 AA 2 AI 2 AU 2 CA 2 E 2 EE 2 HA 2 I 2 II 2 JA 2 KA 2 LA 2 LLA 2 LLLA 2 MA 2 NA 2
  NGA 2 NNA 2 NNNA 2 NYA 2 O 2 OO 2 PA 2 RA 2 RRA 2 SA 2 SHA 2 SSA 2 TA 2 TTA 2 U 2 UU 2 VA 2 YA 1
  MONTH SIGN 1 NUMBER ONE HUNDRED 3 THOUSAND 2 SIGN 2 TEN 1 OM 1 PUNCTUATION END OF TEXT 1 RUPEE
  SIGN 1 SALT PAN SIGN 1 SIGN AAZHAAKKU 2 ANUSVARA 2 CEVITU 2 KAACU 2 KURUNI 2 KUZHI 2 MUKKURUNI 2
  MUTHALIYA 2 MUUVUZHAKKU 2 NEL 2 PAARAM 2 PANAM 2 PATHAKKU 2 PON 2 UZHAKKU 2 VAKAIYARAA 2 VARAAKAN
  2 VELI 2 VIRAMA 2 VISARGA 1 SPENT SIGN 1 STARTING FROM SIGN 1 TOTAL SIGN 1 TRADITIONAL CREDIT SIGN
  2 NUMBER SIGN 1 VOWEL SIGN AA 3 AI 3 AU 3 E 3 EE 3 I 3 II 3 O 3 OO 3 U 3 UU 1 WET CULTIVATION SIGN
  1 YEAR SIGN 0 TANABATA TREE 0 TANGERINE 0 TANGSA DIGIT EIGHT 2 FIVE 2 FOUR 2 NINE 2 ONE 2 SEVEN 2
  SIX 2 THREE 2 TWO 2 ZERO 1 LETTER AC 2 AQ 2 AWC 2 AWQ 2 AWX 2 AWZ 2 AX 2 AZ 2 BA 2 CA 2 CHA 2 DA 2
  DHA 2 EC 2 EQ 2 EX 2 EZ 2 FA 2 FINAL NG 2 GA 2 GHA 2 HA 2 HTA 2 HTTA 2 IC 2 IQ 2 IX 2 IZ 2 KA 2
  KHA 2 LA 2 LONG UEX 2 MA 2 MC 2 MQ 2 MX 2 MZ 2 NA 2 NGA 2 NHA 2 NYA 2 OC 2 OQ 2 OX 2 OZ 2 PA 2 PHA
  2 RA 2 SA 2 SHA 2 SHORT AWX 3 UEZ 2 TA 2 THA 2 TSA 2 UC 2 UEC 2 UEQ 2 UEX 2 UEZ 2 UIC 2 UIQ 2 UIUC
  2 UIUQ 2 UIUX 2 UIUZ 2 UIX 2 UIZ 2 UQ 2 UX 2 UZ 2 VC 2 VQ 2 VX 2 VZ 2 WA 2 XA 2 YA 2 ZA 0 TANGUT
  ITERATION MARK 0 TAPE CARTRIDGE 1 DRIVE 0 TAURUS 0 TAXI 0 TEACUP WITHOUT HANDLE 0 TEAPOT 0
  TEAR-OFF CALENDAR 0 TEARDROP-BARBED RIGHTWARDS ARROW 0 TEARDROP-SPOKED ASTERISK 0 TEDDY BEAR 0
  TELEPHONE LOCATION SIGN 1 ON TOP OF MODEM 1 RECEIVER 2 WITH PAGE 1 RECORDER 1 SIGN 0 TELESCOPE 0
  TELEVISION 0 TELUGU AI LENGTH MARK 1 DIGIT EIGHT 2 FIVE 2 FOUR 2 NINE 2 ONE 2 SEVEN 2 SIX 2 THREE
  2 TWO 2 ZERO 1 FRACTION DIGIT ONE FOR EVEN POWERS OF FOUR 5 ODD POWERS OF FOUR 3 THREE FOR EVEN
  POWERS OF FOUR 5 ODD POWERS OF FOUR 3 TWO FOR EVEN POWERS OF FOUR 5 ODD POWERS OF FOUR 3 ZERO FOR
  ODD POWERS OF FOUR 1 LENGTH MARK 1 LETTER A 2 AA 2 AI 2 AU 2 BA 2 BHA 2 CA 2 CHA 2 DA 2 DDA 2 DDHA
  2 DHA 2 DZA 2 E 2 EE 2 GA 2 GHA 2 HA 2 I 2 II 2 JA 2 JHA 2 KA 2 KHA 2 LA 2 LLA 2 LLLA 2 MA 2 NA 2
  NAKAARA POLLU 2 NGA 2 NNA 2 NYA 2 O 2 OO 2 PA 2 PHA 2 RA 2 RRA 2 RRRA 2 SA 2 SHA 2 SSA 2 TA 2 THA
  2 TSA 2 TTA 2 TTHA 2 U 2 UU 2 VA 2 VOCALIC L 3 LL 3 R 3 RR 2 YA 1 SIGN ANUSVARA 2 AVAGRAHA 2
  CANDRABINDU 2 COMBINING ANUSVARA ABOVE 3 CANDRABINDU ABOVE 2 NUKTA 2 SIDDHAM 2 TUUMU 2 VIRAMA 2
  VISARGA 1 VOWEL SIGN AA 3 AI 3 AU 3 E 3 EE 3 I 3 II 3 O 3 OO 3 U 3 UU 3 VOCALIC L 4 LL 4 R 4 RR 0
  TENGE SIGN 0 TENNIS RACQUET AND BALL 0 TENT 0 TEST TUBE 0 TETRAGRAM FOR ACCUMULATION 2 ADVANCE 2
  AGGRAVATION 2 ASCENT 2 BARRIER 2 BOLD RESOLUTION 2 BRANCHING OUT 2 CENTRE 2 CHANGE 2 CLOSED MOUTH
  2 CLOSENESS 2 CLOSURE 2 COMPLETION 2 COMPLIANCE 2 CONSTANCY 2 CONTACT 2 CONTENTION 2 CONTRARIETY 2
  DARKENING 2 DECISIVENESS 2 DEFECTIVENESS OR DISTORTION 2 DEPARTURE 2 DIFFICULTIES 2 DIMINISHMENT 2
  DIMMING 2 DIVERGENCE 2 DOUBT 2 DUTIES 2 EASE 2 EMBELLISHMENT 2 ENCOUNTERS 2 ENDEAVOUR 2
  ENLARGEMENT 2 ETERNITY 2 EXHAUSTION 2 FAILURE 2 FLIGHT 2 FOLLOWING 2 FOSTERING 2 FULL CIRCLE 2
  FULLNESS 2 GATHERING 3 IN 2 GOING TO MEET 2 GREATNESS 2 GUARDEDNESS 2 HARDNESS 2 HOLDING BACK 2
  INCREASE 2 INNER 2 JOY 2 KEEPING SMALL 2 KINSHIP 2 LABOURING 2 LAW OR MODEL 2 LEGION 2 MASSING 2
  MEASURE 2 MIRED 2 ON THE VERGE 2 OPPOSITION 2 PACKING 2 PATTERN 2 PENETRATION 2 PURITY 2 REACH 2
  RELEASE 2 RESIDENCE 2 RESISTANCE 2 RESPONSE 2 RITUAL 2 SEVERANCE 2 SINKING 2 STOPPAGE 2 STOVE 2
  STRENGTH 2 UNITY 2 VASTNESS OR WASTING 2 WAITING 2 WATCH 2 YOUTHFULNESS 0 THAANA AABAAFILI 1
  ABAFILI 1 EBEFILI 1 EEBEEFILI 1 EYBEYFILI 1 IBIFILI 1 LETTER AINU 2 ALIFU 2 BAA 2 CHAVIYANI 2
  DAADHU 2 DAVIYANI 2 DHAALU 2 FAAFU 2 GAAFU 2 GHAINU 2 GNAVIYANI 2 HAA 2 HHAA 2 JAVIYANI 2 KAAFU 2
  KHAA 2 LAAMU 2 LHAVIYANI 2 MEEMU 2 NAA 2 NOONU 2 PAVIYANI 2 QAAFU 2 RAA 2 SAADHU 2 SEENU 2
  SHAVIYANI 2 SHEENU 2 TAVIYANI 2 THAA 2 THAALU 2 TO 2 TTAA 2 VAAVU 2 WAAVU 2 YAA 2 ZAA 2 ZAVIYANI 2
  ZO 1 OABOAFILI 1 OBOFILI 1 OOBOOFILI 1 SUKUN 1 UBUFILI 0 THAI CHARACTER ANGKHANKHU 2 BO BAIMAI 2
  CHO CHAN 3 CHANG 3 CHING 3 CHOE 2 DO CHADA 3 DEK 2 FO FA 3 FAN 2 FONGMAN 2 HO HIP 3 NOKHUK 2 KHO
  KHAI 3 KHON 3 KHUAT 3 KHWAI 3 RAKHANG 2 KHOMUT 2 KO KAI 2 LAKKHANGYAO 2 LO CHULA 3 LING 2 LU 2 MAI
  CHATTAWA 3 EK 3 HAN-AKAT 3 THO 3 TRI 2 MAITAIKHU 2 MAIYAMOK 2 MO MA 2 NGO NGU 2 NIKHAHIT 2 NO NEN
  3 NU 2 O ANG 2 PAIYANNOI 2 PHINTHU 2 PHO PHAN 3 PHUNG 3 SAMPHAO 2 PO PLA 2 RO RUA 2 RU 2 SARA A 3
  AA 3 AE 3 AI MAIMALAI 4 MAIMUAN 3 AM 3 E 3 I 3 II 3 O 3 U 3 UE 3 UEE 3 UU 2 SO RUSI 3 SALA 3 SO 3
  SUA 2 THANTHAKHAT 2 THO NANGMONTHO 3 PHUTHAO 3 THAHAN 3 THAN 3 THONG 3 THUNG 2 TO PATAK 3 TAO 2 WO
  WAEN 2 YAMAKKAN 2 YO YAK 3 YING 1 CURRENCY SYMBOL BAHT 1 DIGIT EIGHT 2 FIVE 2 FOUR 2 NINE 2 ONE 2
  SEVEN 2 SIX 2 THREE 2 TWO 2 ZERO 0 THERE DOES NOT EXIST 1 EXISTS 0 THEREFORE 0 THERMODYNAMIC 0
  THERMOMETER 0 THIN GREEK CROSS 1 SALTIRE 1 SPACE 0 THINKING FACE 0 THIRD PLACE MEDAL 0 THONG
  SANDAL 0 THOUGHT BALLOON 0 THREE BUTTON MOUSE 1 CONSECUTIVE EQUALS SIGNS 1 DIMENSIONAL ANGLE 1 DOT
  PUNCTUATION 1 LEFTWARDS ARROWS 1 LINES CONVERGING LEFT 3 RIGHT 1 NETWORKED COMPUTERS 1 POINTED
  BLACK STAR 1 RAYS ABOVE 2 BELOW 2 LEFT 2 RIGHT 1 RIGHTWARDS ARROWS 1 SPEECH BUBBLES 0 THREE-D
  BOTTOM-LIGHTED RIGHTWARDS ARROWHEAD 1 LEFT-LIGHTED DOWNWARDS EQUILATERAL ARROWHEAD 1 RIGHT-LIGHTED
  UPWARDS EQUILATERAL ARROWHEAD 1 TOP-LIGHTED LEFTWARDS EQUILATERAL ARROWHEAD 2 RIGHTWARDS ARROWHEAD
  3 EQUILATERAL ARROWHEAD 0 THREE-EM DASH 0 THREE-PER-EM SPACE 0 THUMBS DOWN SIGN 1 UP SIGN 0
  THUNDER CLOUD AND RAIN 0 THUNDERSTORM 0 TIBETAN ASTROLOGICAL SIGN -KHYUD PA 3 SDONG TSHUGS 3 SGRA
  GCAN -CHAR RTAGS 1 CANTILLATION SIGN CANG TE-U 3 HEAVY BEAT 3 LIGHT BEAT 3 SBUB -CHAL 1 DIGIT
  EIGHT 2 FIVE 2 FOUR 2 HALF EIGHT 3 FIVE 3 FOUR 3 NINE 3 ONE 3 SEVEN 3 SIX 3 THREE 3 TWO 3 ZERO 2
  NINE 2 ONE 2 SEVEN 2 SIX 2 THREE 2 TWO 2 ZERO 1 KU RU KHA 4 BZHI MIG CAN 1 LETTER -A 2 A 2 BA 2
  BHA 2 CA 2 CHA 2 DA 2 DDA 2 DDHA 2 DHA 2 DZA 2 DZHA 2 FIXED-FORM RA 2 GA 2 GHA 2 HA 2 JA 2 KA 2
  KHA 2 KKA 2 KSSA 2 LA 2 MA 2 NA 2 NGA 2 NNA 2 NYA 2 PA 2 PHA 2 RA 2 RRA 2 SA 2 SHA 2 SSA 2 TA 2
  THA 2 TSA 2 TSHA 2 TTA 2 TTHA 2 WA 2 YA 2 ZA 2 ZHA 1 LOGOTYPE SIGN CHAD RTAGS 3 LHAG RTAGS 1 MARK
  ANG KHANG GYAS 4 GYON 2 BKA- SHOG GI MGO RGYAN 4 YIG MGO 2 BSDUS RTAGS 2 BSKA- SHOG GI MGO RGYAN 2
  BSKUR YIG MGO 2 CARET -DZUD RTAGS BZHI MIG CAN 5 ME LONG CAN 3 YIG MGO PHUR SHAD MA 2 CHE MGO 2
  CLOSING BRDA RNYING YIG MGO SGAB MA 3 YIG MGO SGAB MA 2 DELIMITER TSHEG BSTAR 2 GTER TSHEG 3 YIG
  MGO -UM GTER TSHEG MA 6 RNAM BCAD MA 5 TRUNCATED A 2 GUG RTAGS GYAS 4 GYON 2 HALANTA 2 INITIAL
  BRDA RNYING YIG MGO MDUN MA 3 YIG MGO MDUN MA 2 INTERSYLLABIC TSHEG 2 LEADING MCHAN RTAGS 2 MNYAM
  YIG GI MGO RGYAN 2 NGAS BZUNG NYI ZLA 4 SGOR RTAGS 2 NYIS SHAD 3 TSHEG 4 SHAD 2 PALUTA 2 RGYA GRAM
  SHAD 2 RIN CHEN SPUNGS SHAD 2 SBRUL SHAD 2 SHAD 2 TRAILING MCHAN RTAGS 2 TSA -PHRU 2 TSHEG SHAD 2
  YIG MGO TSHEG SHAD MA 1 SIGN GRU CAN RGYINGS 3 MED RGYINGS 2 INVERTED MCHU CAN 2 LCE TSA CAN 2 LCI
  RTAGS 2 MAR TSHES 2 MCHU CAN 2 NYI ZLA NAA DA 2 RDEL DKAR GCIG 4 GNYIS 4 GSUM 4 RDEL NAG 3 NAG
  GCIG 4 GNYIS 4 GSUM 4 RDEL DKAR 2 RJES SU NGA RO 2 RNAM BCAD 2 SNA LDAN 2 YANG RTAGS 2 YAR TSHES 1
  SUBJOINED LETTER -A 3 A 3 BA 3 BHA 3 CA 3 CHA 3 DA 3 DDA 3 DDHA 3 DHA 3 DZA 3 DZHA 3 FIXED-FORM RA
  4 WA 4 YA 3 GA 3 GHA 3 HA 3 JA 3 KA 3 KHA 3 KSSA 3 LA 3 MA 3 NA 3 NGA 3 NNA 3 NYA 3 PA 3 PHA 3 RA
  3 SA 3 SHA 3 SSA 3 TA 3 THA 3 TSA 3 TSHA 3 TTA 3 TTHA 3 WA 3 YA 3 ZA 3 ZHA 2 SIGN INVERTED MCHU
  CAN 3 LCE TSA CAN 3 MCHU CAN 1 SYLLABLE OM 1 SYMBOL DRIL BU 2 NOR BU 4 BZHI -KHYIL 4 GSUM -KHYIL 4
  NYIS -KHYIL 2 PADMA GDAN 2 PHUR PA 2 RDO RJE 4 RGYA GRAM 1 VOWEL SIGN AA 3 E 3 EE 3 I 3 II 3 O 3
  OO 3 REVERSED I 4 II 3 U 3 UU 3 VOCALIC L 4 LL 4 R 4 RR 0 TICKET 0 TIE OVER INFINITY 0 TIFINAGH
  CONSONANT JOINER 1 LETTER AHAGGAR YAZH 2 AYER YAGH 2 BERBER ACADEMY YAH 4 YAJ 2 TAWELLEMET YAZ 2
  TUAREG YAGH 3 YAGN 3 YAH 3 YAK 3 YAKH 3 YANG 3 YAQ 3 YAZH 2 YA 2 YAA 2 YAB 2 YABH 2 YACH 2 YAD 2
  YADD 2 YADDH 2 YADH 2 YAF 2 YAG 2 YAGH 2 YAGHH 2 YAH 2 YAHH 2 YAJ 2 YAK 2 YAKH 2 YAKHH 2 YAL 2 YAM
  2 YAN 2 YAP 2 YAQ 2 YAR 2 YARR 2 YAS 2 YASH 2 YASS 2 YAT 2 YATH 2 YATT 2 YAV 2 YAW 2 YAY 2 YAZ 2
  YAZH 2 YAZZ 2 YE 2 YEY 2 YI 2 YO 2 YU 1 MODIFIER LETTER LABIALIZATION MARK 1 SEPARATOR MARK 0
  TIGER 1 FACE 0 TIGHT TRIFOLIATE SNOWFLAKE 0 TILDE 1 OPERATOR 2 ABOVE LEFTWARDS ARROW 3 RIGHTWARDS
  ARROW 2 WITH DOT ABOVE 3 RISING DOTS 1 WITH DOT ABOVE 3 BELOW 2 RING ABOVE 0 TIMER CLOCK 0 TIMES
  WITH LEFT HALF BLACK 2 RIGHT HALF BLACK 0 TINY 1 TWO DOTS OVER ONE DOT PUNCTUATION 0 TIRED FACE 0
  TIRHUTA ABBREVIATION SIGN 1 ANJI 1 DIGIT EIGHT 2 FIVE 2 FOUR 2 NINE 2 ONE 2 SEVEN 2 SIX 2 THREE 2
  TWO 2 ZERO 1 GVANG 1 LETTER A 2 AA 2 AI 2 AU 2 BA 2 BHA 2 CA 2 CHA 2 DA 2 DDA 2 DDHA 2 DHA 2 E 2
  GA 2 GHA 2 HA 2 I 2 II 2 JA 2 JHA 2 KA 2 KHA 2 LA 2 MA 2 NA 2 NGA 2 NNA 2 NYA 2 O 2 PA 2 PHA 2 RA
  2 SA 2 SHA 2 SSA 2 TA 2 THA 2 TTA 2 TTHA 2 U 2 UU 2 VA 2 VOCALIC L 3 LL 3 R 3 RR 2 YA 1 OM 1 SIGN
  ANUSVARA 2 AVAGRAHA 2 CANDRABINDU 2 NUKTA 2 VIRAMA 2 VISARGA 1 VOWEL SIGN AA 3 AI 3 AU 3 E 3 I 3
  II 3 O 3 SHORT E 4 O 3 U 3 UU 3 VOCALIC L 4 LL 4 R 4 RR 0 TIRONIAN SIGN CAPITAL ET 2 ET 0 TOILET 0
  TOKYO TOWER 0 TOMATO 0 TONGUE 0 TOOLBOX 0 TOOTH 0 TOOTHBRUSH 0 TOP ARC ANTICLOCKWISE ARROW 4 WITH
  PLUS 2 CLOCKWISE ARROW WITH MINUS 1 CURLY BRACKET 1 HALF BLACK CIRCLE 2 INTEGRAL 2 LEFT
  PARENTHESIS 2 RIGHT PARENTHESIS 2 SECTION SIGN 1 HAT 1 LEFT CORNER 2 CROP 2 HALF BRACKET 1
  PARENTHESIS 1 RIGHT CORNER 2 CROP 2 HALF BRACKET 1 SQUARE BRACKET 1 TORTOISE SHELL BRACKET 1 WITH
  UPWARDS ARROW ABOVE 0 TORTOISE SHELL BRACKETED CJK UNIFIED IDEOGRAPH-4E09 5 IDEOGRAPH-4E8C 5
  IDEOGRAPH-52DD 5 IDEOGRAPH-5B89 5 IDEOGRAPH-6253 5 IDEOGRAPH-6557 5 IDEOGRAPH-672C 5
  IDEOGRAPH-70B9 5 IDEOGRAPH-76D7 3 LATIN CAPITAL LETTER S 0 TOTAL RUNOUT 0 TOTO LETTER A 2 AE 2 BA
  2 BREATHY AE 3 E 3 EO 3 I 3 IU 2 CHA 2 DA 2 E 2 EO 2 GA 2 HA 2 I 2 IU 2 JA 2 KA 2 LA 2 MA 2 NA 2
  NGA 2 O 2 PA 2 RA 2 SA 2 TA 2 U 2 WA 2 YA 1 SIGN RISING TONE 0 TRACKBALL 0 TRACTOR 0 TRADE MARK
  SIGN 0 TRAIN 0 TRAM 1 CAR 0 TRANSPLUTO 0 TRANSVERSAL INTERSECTION 0 TRIANGLE WITH DOT ABOVE 2
  ROUNDED CORNERS 2 SERIFS AT BOTTOM 2 UNDERBAR 0 TRIANGLE-HEADED RIGHTWARDS ARROW 0 TRIANGULAR
  BULLET 1 FLAG ON POST 1 RULER 0 TRICOLON 0 TRIDENT EMBLEM 0 TRIGRAM FOR EARTH 2 FIRE 2 HEAVEN 2
  LAKE 2 MOUNTAIN 2 THUNDER 2 WATER 2 WIND 0 TRIPLE COLON OPERATOR 1 DAGGER 1 HORIZONTAL BAR WITH
  DOUBLE VERTICAL STROKE 4 TRIPLE VERTICAL STROKE 1 INTEGRAL 1 NESTED GREATER-THAN 2 LESS-THAN 1
  PLUS 1 PRIME 1 SOLIDUS BINARY RELATION 1 TILDE 1 VERTICAL BAR BINARY RELATION 3 DELIMITER 3 RIGHT
  TURNSTILE 3 WITH HORIZONTAL STROKE 0 TROLL 0 TROLLEYBUS 0 TROPHY 0 TROPICAL DRINK 1 FISH 0 TRUE 1
  LIGHT MOON ARTA 0 TRUMPET 0 TUGRIK SIGN 0 TULIP 0 TUMBLER GLASS 0 TURKEY 0 TURKISH LIRA SIGN 0
  TURNED AMPERSAND 1 ANGLE 1 BLACK PENTAGON 2 SHOGI PIECE 1 CAPITAL F 1 COMMA 1 DAGGER 1 DIGIT THREE
  2 TWO 1 GREEK SMALL LETTER IOTA 1 NORTH EAST POINTING LEAF 2 WEST POINTING LEAF 1 NOT SIGN 1 OK
  HAND SIGN 1 SANS-SERIF CAPITAL G 3 L 3 Y 1 SEMICOLON 1 SMALL F 1 SOUTH EAST POINTING LEAF 2 WEST
  POINTING LEAF 1 WHITE SHOGI PIECE 0 TURTLE 0 TWELVE POINTED BLACK STAR 0 TWISTED RIGHTWARDS ARROWS
  0 TWO ASTERISKS ALIGNED VERTICALLY 1 BUTTON MOUSE 1 CONSECUTIVE EQUALS SIGNS 1 DOT LEADER 2
  PUNCTUATION 1 DOTS OVER ONE DOT PUNCTUATION 1 HEARTS 1 INTERSECTING LOGICAL AND 3 OR 1 JOINED
  SQUARES 1 LOGICAL AND OPERATOR 2 OR OPERATOR 1 MEN HOLDING HANDS 1 SPEECH BUBBLES 1 WOMEN HOLDING
  HANDS 0 TWO-EM DASH 0 UGARITIC LETTER AIN 2 ALPA 2 BETA 2 DELTA 2 DHAL 2 GAMLA 2 GHAIN 2 HO 2 HOTA
  2 I 2 KAF 2 KHA 2 LAMDA 2 MEM 2 NUN 2 PU 2 QOPA 2 RASHA 2 SADE 2 SAMKA 2 SHIN 2 SSU 2 TET 2 THANNA
  2 TO 2 U 2 WO 2 YOD 2 ZETA 2 ZU 1 WORD DIVIDER 0 UMBRELLA 1 ON GROUND 1 WITH RAIN DROPS 0 UNAMUSED
  FACE 0 UNCERTAINTY SIGN 0 UNDERTIE 0 UNDO SYMBOL 0 UNICORN FACE 0 UNION 1 ABOVE BAR ABOVE
  INTERSECTION 2 INTERSECTION 1 BESIDE AND JOINED WITH UNION 1 WITH LOGICAL OR 2 MINUS SIGN 2
  OVERBAR 0 UNIT SEPARATOR 0 UNITED SYMBOL 0 UNIVERSAL RECYCLING SYMBOL 0 UNMARRIED PARTNERSHIP
  SYMBOL 0 UP ARROW THROUGH CIRCLE 1 ARROWHEAD 2 BETWEEN TWO HORIZONTAL BARS 2 IN A RECTANGLE BOX 1
  BARB LEFT DOWN BARB LEFT HARPOON 5 RIGHT HARPOON 2 RIGHT DOWN BARB LEFT HARPOON 5 RIGHT HARPOON 1
  DOWN ARROW 3 WITH BASE 2 BLACK ARROW 2 DOUBLE ARROW 2 SANS-SERIF ARROW 2 TRIANGLE-HEADED ARROW 2
  WHITE ARROW 1 FISH TAIL 1 RIGHT DIAGONAL ELLIPSIS 1 TACK 2 WITH CIRCLE ABOVE 0 UP-POINTING
  AIRPLANE 1 MILITARY AIRPLANE 1 RED TRIANGLE 1 SMALL AIRPLANE 2 RED TRIANGLE 1 TRIANGLE WITH LEFT
  HALF BLACK 3 RIGHT HALF BLACK 0 UPPER AND LEFT AND LOWER TRIANGULAR THREE QUARTERS BLOCK 2 LOWER
  ONE EIGHTH BLOCK 3 TRIANGULAR HALF BLOCK 2 RIGHT AND LOWER TRIANGULAR THREE QUARTERS BLOCK 1 BLADE
  SCISSORS 1 FIVE EIGHTHS BLOCK 1 HALF BLOCK 3 AND LOWER HALF INVERSE MEDIUM SHADE 2 CIRCLE 2
  INVERSE MEDIUM SHADE AND LOWER HALF BLOCK 3 WHITE CIRCLE 2 MEDIUM SHADE 1 LEFT BLOCK DIAGONAL
  LOWER CENTRE TO LOWER MIDDLE RIGHT 7 UPPER MIDDLE RIGHT 8 RIGHT 5 LEFT TO LOWER MIDDLE RIGHT 7
  UPPER CENTRE 8 MIDDLE RIGHT 5 MIDDLE LEFT TO UPPER CENTRE 9 MIDDLE RIGHT 9 RIGHT 4 UPPER MIDDLE
  LEFT TO UPPER CENTRE 9 RIGHT 2 CORNER WITH DOT 2 OR LOWER RIGHT CURLY BRACKET SECTION 2 QUADRANT
  CIRCULAR ARC 2 TO LOWER RIGHT FILL 2 TRIANGLE 2 TRIANGULAR MEDIUM SHADE 1 ONE EIGHTH BLOCK 2
  QUARTER BLOCK 1 RIGHT BLOCK DIAGONAL LOWER MIDDLE LEFT TO LOWER CENTRE 9 RIGHT 4 UPPER CENTRE TO
  LOWER MIDDLE RIGHT 8 RIGHT 7 UPPER MIDDLE RIGHT 5 LEFT TO LOWER CENTRE 8 MIDDLE RIGHT 7 UPPER
  MIDDLE RIGHT 5 MIDDLE LEFT TO LOWER CENTRE 9 MIDDLE RIGHT 9 RIGHT 2 DROP-SHADOWED WHITE SQUARE 2
  OR LOWER LEFT CURLY BRACKET SECTION 2 PENCIL 2 QUADRANT CIRCULAR ARC 2 SHADOWED WHITE CIRCLE 4
  SQUARE 2 TO LOWER LEFT FILL 2 TRIANGLE 2 TRIANGULAR MEDIUM SHADE 1 SEVEN EIGHTHS BLOCK 1 THREE
  EIGHTHS BLOCK 2 QUARTERS BLOCK 1 TRIANGULAR ONE QUARTER BLOCK 0 UPSIDE-DOWN FACE 0 UPWARDS ANCORA
  1 ARROW 2 AND RIGHT ONE EIGHTH BLOCK 2 FROM BAR 2 LEFTWARDS OF DOWNWARDS ARROW 2 TO BAR 2 WITH
  DOUBLE STROKE 3 EQUILATERAL ARROWHEAD 3 HORIZONTAL STROKE 3 LARGE TRIANGLE ARROWHEAD 3 MEDIUM
  TRIANGLE ARROWHEAD 3 NOTCHED TAIL 3 SMALL EQUILATERAL ARROWHEAD 4 TRIANGLE ARROWHEAD 3 TIP
  LEFTWARDS 4 RIGHTWARDS 1 BLACK ARROW 2 CIRCLED WHITE ARROW 1 COMPRESSED ARROW 1 DASHED ARROW 1
  DOUBLE ARROW 1 FINGER-POST ARROW 1 HARPOON WITH BARB LEFT BESIDE DOWNWARDS HARPOON WITH BARB RIGHT
  6 UPWARDS HARPOON WITH BARB RIGHT 5 FROM BAR 5 TO BAR 4 LEFTWARDS 4 RIGHT FROM BAR 5 TO BAR 4
  RIGHTWARDS 1 HEAVY ARROW 2 COMPRESSED ARROW 1 PAIRED ARROWS 1 QUADRUPLE ARROW 1 ROCKET 1
  SANS-SERIF ARROW 1 SQUARED ARROW 1 TRIANGLE ARROWHEAD 1 TRIANGLE-HEADED ARROW 3 LEFTWARDS OF
  DOWNWARDS TRIANGLE-HEADED ARROW 3 TO BAR 3 WITH BOLD SHAFT 4 DOUBLE HORIZONTAL STROKE 4 HEAVY
  SHAFT 4 LONG TIP LEFTWARDS 6 RIGHTWARDS 4 MEDIUM SHAFT 4 NARROW SHAFT 4 VERY HEAVY SHAFT 2 DASHED
  ARROW 2 PAIRED ARROWS 1 TRIPLE ARROW 1 TWO HEADED ARROW 1 TWO-HEADED ARROW FROM SMALL CIRCLE 3
  WITH TRIANGLE ARROWHEADS 1 WHITE ARROW 3 FROM BAR 5 WITH HORIZONTAL BAR 3 ON PEDESTAL 5 WITH
  HORIZONTAL BAR 6 VERTICAL BAR 3 WITHIN TRIANGLE ARROWHEAD 2 DOUBLE ARROW 4 ON PEDESTAL 0 URANUS 0
  US 0 VAI COMMA 1 DIGIT EIGHT 2 FIVE 2 FOUR 2 NINE 2 ONE 2 SEVEN 2 SIX 2 THREE 2 TWO 2 ZERO 1 FULL
  STOP 1 QUESTION MARK 1 SYLLABLE A 2 AN 2 BA 2 BE 2 BEE 2 BHA 2 BHE 2 BHEE 2 BHI 2 BHO 2 BHOO 2 BHU
  2 BI 2 BO 2 BOO 2 BU 2 CA 2 CE 2 CEE 2 CI 2 CO 2 COO 2 CU 2 DA 2 DE 2 DEE 2 DHA 2 DHE 2 DHEE 2
  DHHA 2 DHHE 2 DHHEE 2 DHHI 2 DHHO 2 DHHOO 2 DHHU 2 DHI 2 DHO 2 DHOO 2 DHU 2 DI 2 DO 2 DOO 2 DU 2 E
  2 EE 2 EEN 2 EN 2 FA 2 FE 2 FEE 2 FI 2 FO 2 FOO 2 FU 2 GA 2 GBA 2 GBE 2 GBEE 2 GBEN 2 GBI 2 GBO 2
  GBON 2 GBOO 2 GBU 2 GE 2 GEE 2 GEN 2 GI 2 GO 2 GOO 2 GU 2 HA 2 HAN 2 HE 2 HEE 2 HEN 2 HI 2 HIN 2
  HO 2 HON 2 HOO 2 HU 2 HUN 2 I 2 IN 2 JA 2 JE 2 JEE 2 JI 2 JO 2 JOO 2 JU 2 KA 2 KAN 2 KE 2 KEE 2 KI
  2 KO 2 KOO 2 KPA 2 KPAN 2 KPE 2 KPEE 2 KPEN 2 KPI 2 KPO 2 KPOO 2 KPU 2 KU 2 LA 2 LE 2 LEE 2
  LENGTHENER 2 LI 2 LO 2 LOO 2 LU 2 MA 2 MBA 2 MBE 2 MBEE 2 MBI 2 MBO 2 MBOO 2 MBU 2 ME 2 MEE 2 MGBA
  2 MGBE 2 MGBEE 2 MGBI 2 MGBO 2 MGBOO 2 MGBU 2 MI 2 MO 2 MOO 2 MU 2 NA 2 NDA 2 NDE 2 NDEE 2 NDI 2
  NDO 2 NDOLE DO 3 FA 3 KA 3 MA 3 SOO 2 NDOO 2 NDU 2 NE 2 NEE 2 NG 2 NGAN 2 NGEN 2 NGGA 2 NGGE 2
  NGGEE 2 NGGEN 2 NGGI 2 NGGO 2 NGGOO 2 NGGU 2 NGON 2 NI 2 NJA 2 NJE 2 NJEE 2 NJI 2 NJO 2 NJOO 2 NJU
  2 NO 2 NOO 2 NU 2 NYA 2 NYE 2 NYEE 2 NYI 2 NYO 2 NYOO 2 NYU 2 O 2 ON 2 OO 2 OON 2 PA 2 PE 2 PEE 2
  PI 2 PO 2 POO 2 PU 2 RA 2 RE 2 REE 2 RI 2 RO 2 ROO 2 RU 2 SA 2 SE 2 SEE 2 SHA 2 SHE 2 SHEE 2 SHI 2
  SHO 2 SHOO 2 SHU 2 SI 2 SO 2 SOO 2 SU 2 TA 2 TE 2 TEE 2 THA 2 THE 2 THEE 2 THI 2 THO 2 THOO 2 THU
  2 TI 2 TO 2 TOO 2 TU 2 U 2 UN 2 VA 2 VE 2 VEE 2 VI 2 VO 2 VOO 2 VU 2 WA 2 WAN 2 WE 2 WEE 2 WEEN 2
  WEN 2 WI 2 WIN 2 WO 2 WON 2 WOO 2 WOON 2 WU 2 WUN 2 YA 2 YE 2 YEE 2 YI 2 YO 2 YOO 2 YU 2 ZA 2 ZE 2
  ZEE 2 ZHA 2 ZHE 2 ZHEE 2 ZHI 2 ZHO 2 ZHOO 2 ZHU 2 ZI 2 ZO 2 ZOO 2 ZU 1 SYMBOL BANG 2 DANG 2 DO-O 2
  DOONG 2 FAA 2 FEENG 2 JONG 2 KEENG 2 KUNG 2 NII 2 TAA 2 TING 2 TONG 0 VAMPIRE 0 VECTOR OR CROSS
  PRODUCT 0 VEDIC SIGN ANUSVARA ANTARGOMUKHA 3 BAHIRGOMUKHA 3 UBHAYATO MUKHA 3 VAMAGOMUKHA 4 WITH
  TAIL 2 ARDHAVISARGA 2 ATIKRAMA 2 DOUBLE ANUSVARA ANTARGOMUKHA 2 HEXIFORM LONG ANUSVARA 2
  JIHVAMULIYA 2 LONG ANUSVARA 2 NIHSHVASA 2 REVERSED VISARGA ANUDATTA 4 UDATTA 2 ROTATED
  ARDHAVISARGA 2 RTHANG LONG ANUSVARA 2 TIRYAK 2 UPADHMANIYA 2 VISARGA ANUDATTA 4 WITH TAIL 3
  SVARITA 3 UDATTA 4 WITH TAIL 2 YAJURVEDIC MIDLINE SVARITA 1 TONE ATHARVAVEDIC INDEPENDENT SVARITA
  2 CANDRA ABOVE 3 BELOW 2 DOT BELOW 2 DOUBLE RING ABOVE 3 SVARITA 2 KARSHANA 2 KATHAKA ANUDATTA 2
  PRENKHA 2 RIGVEDIC KASHMIRI INDEPENDENT SVARITA 2 RING ABOVE 2 SHARA 2 THREE DOTS BELOW 2 TRIPLE
  SVARITA 2 TWO DOTS BELOW 2 YAJURVEDIC AGGRAVATED INDEPENDENT SVARITA 3 INDEPENDENT SVARITA 3
  KATHAKA INDEPENDENT SVARITA 6 SCHROEDER 0 VERSICLE 0 VERTICAL BAR BESIDE RIGHT TRIANGLE 2 DOUBLE
  LEFT TURNSTILE 2 TRIPLE RIGHT TURNSTILE 2 WITH HORIZONTAL STROKE 1 ELLIPSIS 1 FOUR DOTS 1
  IDEOGRAPHIC ITERATION MARK 1 KANA REPEAT MARK 4 LOWER HALF 4 UPPER HALF 3 WITH VOICED SOUND MARK 7
  UPPER HALF 1 LINE 2 EXTENSION 2 WITH CIRCLE ABOVE 4 BELOW 3 MIDDLE DOT 1 MALE WITH STROKE SIGN 1
  ONE EIGHTH BLOCK-2 3 BLOCK-3 3 BLOCK-4 3 BLOCK-5 3 BLOCK-6 3 BLOCK-7 1 SIX DOTS 1 TAB KEY 1
  TABULATION 2 SET 1 TILDE 1 TRAFFIC LIGHT 1 ZIGZAG LINE 0 VERY BOLD GREEK CROSS 1 HEAVY EIGHT
  POINTED BLACK STAR 3 SPOKED ASTERISK 2 FIVE SPOKED ASTERISK 2 GREEK CROSS 2 REVERSE SOLIDUS 2
  SALTIRE 2 SIX SPOKED ASTERISK 2 SOLIDUS 2 WHITE CIRCLE 3 SQUARE 1 MUCH GREATER-THAN 2 LESS-THAN 0
  VESTA 0 VIBRATION MODE 0 VICTORY HAND 0 VIDEO CAMERA 1 GAME 0 VIDEOCASSETTE 0 VIETNAMESE ALTERNATE
  READING MARK CA 4 NHAY 0 VIEWDATA SQUARE 0 VIOLIN 0 VIRGO 0 VITHKUQI CAPITAL LETTER A 3 BBE 3 BE 3
  CE 3 CHE 3 DE 3 DHE 3 E 3 EI 3 FE 3 GA 3 HA 3 HHA 3 I 3 IJE 3 JE 3 KA 3 LA 3 LLA 3 ME 3 NE 3 NJE 3
  O 3 PE 3 QA 3 RE 3 SE 3 SHE 3 TE 3 THE 3 U 3 VE 3 XE 3 Y 3 ZE 1 SMALL LETTER A 3 BBE 3 BE 3 CE 3
  CHE 3 DE 3 DHE 3 E 3 EI 3 FE 3 GA 3 HA 3 HHA 3 I 3 IJE 3 JE 3 KA 3 LA 3 LLA 3 ME 3 NE 3 NJE 3 O 3
  PE 3 QA 3 RE 3 SE 3 SHE 3 TE 3 THE 3 U 3 VE 3 XE 3 Y 3 ZE 0 VOIDED GREEK CROSS 0 VOLCANO 0
  VOLLEYBALL 0 VOLUME INTEGRAL 0 VT 0 VTS 0 VULCANUS 0 VULGAR FRACTION FIVE EIGHTHS 3 SIXTHS 2 FOUR
  FIFTHS 2 ONE EIGHTH 3 FIFTH 3 HALF 3 NINTH 3 QUARTER 3 SEVENTH 3 SIXTH 3 TENTH 3 THIRD 2 SEVEN
  EIGHTHS 2 THREE EIGHTHS 3 FIFTHS 3 QUARTERS 2 TWO FIFTHS 3 THIRDS 2 ZERO THIRDS 0 WAFFLE 0 WANCHO
  DIGIT EIGHT 2 FIVE 2 FOUR 2 NINE 2 ONE 2 SEVEN 2 SIX 2 THREE 2 TWO 2 ZERO 1 LETTER A 2 AA 2 AAN 2
  AANG 2 ANG 2 AU 2 BA 2 CA 2 DA 2 E 2 EN 2 FA 2 GA 2 HA 2 I 2 ING 2 JA 2 KA 2 KHA 2 LA 2 LLHA 2 MA
  2 NA 2 NGA 2 NYA 2 O 2 ON 2 ONG 2 PA 2 PHA 2 RA 2 SA 2 SHA 2 TA 2 THA 2 TRA 2 TSA 2 U 2 UEN 2 VA 2
  WA 2 YA 2 YIH 2 ZA 1 NGUN SIGN 1 TONE KOI 2 KOINI 2 TUP 2 TUPNI 0 WANING CRESCENT MOON SYMBOL 1
  GIBBOUS MOON SYMBOL 0 WARANG CITI CAPITAL LETTER A 4 AM 4 ANG 4 AT 4 BU 4 DA 4 E 4 ENN 4 ENY 4 GA
  4 HAR 4 HIYO 4 HOLO 4 HORR 4 II 4 KO 4 NGAA 4 NUNG 4 O 4 ODD 4 PU 4 SII 4 SSUU 4 TTE 4 UC 4 UU 4
  VIYO 4 WI 4 YA 4 YO 4 YU 4 YUJ 2 DIGIT EIGHT 3 FIVE 3 FOUR 3 NINE 3 ONE 3 SEVEN 3 SIX 3 THREE 3
  TWO 3 ZERO 2 NUMBER EIGHTY 3 FIFTY 3 FORTY 3 NINETY 3 SEVENTY 3 SIXTY 3 TEN 3 THIRTY 3 TWENTY 2 OM
  2 SMALL LETTER A 4 AM 4 ANG 4 AT 4 BU 4 DA 4 E 4 ENN 4 ENY 4 GA 4 HAR 4 HIYO 4 HOLO 4 HORR 4 II 4
  KO 4 NGAA 4 NUNG 4 O 4 ODD 4 PU 4 SII 4 SSUU 4 TTE 4 UC 4 UU 4 VIYO 4 WI 4 YA 4 YO 4 YU 4 YUJ 0
  WARNING SIGN 0 WASTEBASKET 0 WATCH 0 WATER BUFFALO 1 CLOSET 1 POLO 1 WAVE 0 WATERMELON 0 WAVE
  ARROW POINTING DIRECTLY LEFT 4 RIGHT 1 DASH 0 WAVING BLACK FLAG 1 HAND SIGN 1 WHITE FLAG 0 WAVY
  DASH 1 LINE 1 LOW LINE 1 OVERLINE 0 WAXING CRESCENT MOON SYMBOL 1 GIBBOUS MOON SYMBOL 0 WEARY CAT
  FACE 1 FACE 0 WEDDING 0 WEDGE-TAILED RIGHTWARDS ARROW 0 WEIERSTRASS ELLIPTIC FUNCTION 0 WEIGHT
  LIFTER 0 WEST SYRIAC CROSS 0 WHALE 0 WHEEL 1 OF DHARMA 0 WHEELCHAIR SYMBOL 0 WHITE ARROW SHAFT
  WIDTH ONE 4 TWO THIRDS 1 BULLET 1 CHESS BISHOP 3 ROTATED NINETY DEGREES 4 TWO HUNDRED SEVENTY
  DEGREES 2 EQUIHOPPER 3 ROTATED NINETY DEGREES 2 KING 3 ROTATED NINETY DEGREES 4 TWO HUNDRED
  SEVENTY DEGREES 2 KNIGHT 3 ROTATED FORTY-FIVE DEGREES 4 NINETY DEGREES 4 ONE HUNDRED THIRTY-FIVE
  DEGREES 4 THREE HUNDRED FIFTEEN DEGREES 4 TWO HUNDRED SEVENTY DEGREES 6 TWENTY-FIVE DEGREES 2
  KNIGHT-BISHOP 2 KNIGHT-QUEEN 2 KNIGHT-ROOK 2 PAWN 3 ROTATED NINETY DEGREES 4 TWO HUNDRED SEVENTY
  DEGREES 2 QUEEN 3 ROTATED NINETY DEGREES 4 TWO HUNDRED SEVENTY DEGREES 2 ROOK 3 ROTATED NINETY
  DEGREES 4 TWO HUNDRED SEVENTY DEGREES 2 TURNED BISHOP 3 KING 3 KNIGHT 3 PAWN 3 QUEEN 3 ROOK 1
  CIRCLE 2 CONTAINING BLACK SMALL CIRCLE 2 WITH DOT RIGHT 3 DOWN ARROW 3 LOWER LEFT QUADRANT 4 RIGHT
  QUADRANT 3 TWO DOTS 3 UPPER LEFT QUADRANT 4 RIGHT QUADRANT 1 CLUB SUIT 1 CONCAVE-SIDED DIAMOND 3
  WITH LEFTWARDS TICK 4 RIGHTWARDS TICK 1 DIAMOND 2 CONTAINING BLACK MEDIUM DIAMOND 4 SMALL DIAMOND
  4 VERY SMALL DIAMOND 2 IN SQUARE 2 SUIT 2 WITH CENTRED DOT 1 DOWN POINTING BACKHAND INDEX 3 INDEX
  3 LEFT HAND INDEX 1 DOWN-POINTING SMALL TRIANGLE 2 TRIANGLE 1 DRAUGHTS KING 2 MAN 1 EXCLAMATION
  MARK ORNAMENT 1 FLAG 2 WITH HORIZONTAL MIDDLE BLACK STRIPE 1 FLORETTE 1 FLOWER 1 FOUR POINTED CUSP
  3 STAR 1 FROWNING FACE 1 HARD SHELL FLOPPY DISK 1 HEART 2 SUIT 1 HEAVY CHECK MARK 2 SALTIRE WITH
  ROUNDED CORNERS 1 HEXAGON 1 HORIZONTAL ELLIPSE 1 HOURGLASS 1 LARGE SQUARE 1 LATIN CROSS 1 LEFT
  LANE MERGE 2 POINTING BACKHAND INDEX 3 INDEX 1 LEFT-POINTING POINTER 2 SMALL TRIANGLE 2 TRIANGLE 1
  LOZENGE CONTAINING BLACK SMALL LOZENGE 1 MEDIUM DIAMOND 2 LOZENGE 2 SMALL SQUARE 2 SQUARE 2 STAR 1
  MOON SELENA 1 NIB 1 PARALLELOGRAM 1 PENNANT 1 PENTAGON 1 QUESTION MARK ORNAMENT 1 RECTANGLE 1
  RIGHT POINTING BACKHAND INDEX 3 INDEX 1 RIGHT-POINTING PENTAGON 2 POINTER 2 SMALL TRIANGLE 2
  TRIANGLE 1 SCISSORS 1 SESAME DOT 1 SHOGI PIECE 1 SMALL LOZENGE 2 SQUARE 2 STAR 1 SMILING FACE 1
  SPADE SUIT 1 SQUARE 2 BUTTON 2 CONTAINING BLACK MEDIUM SQUARE 4 SMALL SQUARE 4 VERY SMALL SQUARE 2
  WITH CENTRE VERTICAL LINE 3 LEFTWARDS TICK 3 LOWER LEFT QUADRANT 4 RIGHT QUADRANT 3 RIGHTWARDS
  TICK 3 ROUNDED CORNERS 3 UPPER LEFT QUADRANT 4 RIGHT QUADRANT 3 VERTICAL BISECTING LINE 1 STAR 1
  SUN 2 BEHIND CLOUD 4 WITH RAIN 2 WITH RAYS 3 SMALL CLOUD 1 TELEPHONE 1 TOUCHTONE TELEPHONE 1
  TRAPEZIUM 1 TRIANGLE CONTAINING SMALL WHITE TRIANGLE 1 TWO-WAY LEFT WAY TRAFFIC 1 UP POINTING
  BACKHAND INDEX 3 INDEX 1 UP-POINTING CHEVRON 2 SMALL TRIANGLE 2 TRIANGLE 3 WITH DOT 1 VERTICAL BAR
  2 ELLIPSE 2 RECTANGLE 1 VERY SMALL SQUARE 0 WHITE-FEATHERED RIGHTWARDS ARROW 0 WIDE-HEADED
  DOWNWARDS BARB ARROW 2 HEAVY BARB ARROW 2 LIGHT BARB ARROW 2 MEDIUM BARB ARROW 2 VERY HEAVY BARB
  ARROW 1 LEFTWARDS BARB ARROW 2 HEAVY BARB ARROW 2 LIGHT BARB ARROW 2 MEDIUM BARB ARROW 2 VERY
  HEAVY BARB ARROW 1 NORTH EAST BARB ARROW 3 HEAVY BARB ARROW 3 LIGHT BARB ARROW 3 MEDIUM BARB ARROW
  3 VERY HEAVY BARB ARROW 2 WEST BARB ARROW 3 HEAVY BARB ARROW 3 LIGHT BARB ARROW 3 MEDIUM BARB
  ARROW 3 VERY HEAVY BARB ARROW 1 RIGHTWARDS BARB ARROW 2 HEAVY BARB ARROW 2 LIGHT BARB ARROW 2
  MEDIUM BARB ARROW 2 VERY HEAVY BARB ARROW 1 SOUTH EAST BARB ARROW 3 HEAVY BARB ARROW 3 LIGHT BARB
  ARROW 3 MEDIUM BARB ARROW 3 VERY HEAVY BARB ARROW 2 WEST BARB ARROW 3 HEAVY BARB ARROW 3 LIGHT
  BARB ARROW 3 MEDIUM BARB ARROW 3 VERY HEAVY BARB ARROW 1 UPWARDS BARB ARROW 2 HEAVY BARB ARROW 2
  LIGHT BARB ARROW 2 MEDIUM BARB ARROW 2 VERY HEAVY BARB ARROW 0 WIGGLY VERTICAL LINE 0 WILTED
  FLOWER 0 WIND BLOWING FACE 1 CHIME 0 WINDOW 0 WINE GLASS 0 WINKING FACE 0 WIRED KEYBOARD 0 WJ 0
  WOLF FACE 0 WOMAN 1 WITH BUNNY EARS 0 WOMANS BOOTS 1 CLOTHES 1 HAT 1 SANDAL 0 WOMENS SYMBOL 0 WON
  SIGN 0 WOOD 0 WORD JOINER 1 SEPARATOR MIDDLE DOT 0 WORLD MAP 0 WORM 0 WORRIED FACE 0 WRAPPED
  PRESENT 0 WREATH PRODUCT 0 WRENCH 0 WRESTLERS 0 WRITING HAND 0 X IN A RECTANGLE BOX 0 X-RAY 0
  XIANGQI BLACK CANNON 2 CHARIOT 2 ELEPHANT 2 GENERAL 2 HORSE 2 MANDARIN 2 SOLDIER 1 RED CANNON 2
  CHARIOT 2 ELEPHANT 2 GENERAL 2 HORSE 2 MANDARIN 2 SOLDIER 0 XOR 0 YAWNING FACE 0 YELLOW HEART 0
  YEN SIGN 0 YEZIDI COMBINING HAMZA MARK 2 MADDA MARK 1 HYPHENATION MARK 1 LETTER BE 2 CHHIM 2 CHIM
  2 CIM 2 DAD 2 DAL 2 ELIF 2 ET 2 EW 2 EYN 2 FA 2 GAF 2 HAY 2 HHA 2 JA 2 KAF 2 KHAF 2 LAM 3 WITH DOT
  ABOVE 2 MIM 2 NUN 2 OW 2 PE 2 PHE 2 QAF 2 RA 2 RHA 2 SAD 2 SE 2 SHIN 2 SIN 2 TA 2 THE 2 UM 2 VA 3
  ALTERNATE FORM 2 WAW 2 XA 2 XHEYN 2 YOT 3 WITH CIRCUMFLEX ABOVE 2 ZA 2 ZAL 2 ZE 0 YI RADICAL BBUT
  2 BUR 2 CHE 2 CIP 2 CUOP 2 CY 2 CYP 2 CYT 2 DDUR 2 DU 2 GA 2 GEP 2 GGOP 2 GGUO 2 GOT 2 HMO 2 HXIT
  2 HXOP 2 HXUO 2 JJIE 2 JJUT 2 JJY 2 JO 2 KE 2 KIT 2 LI 2 LIE 2 LYR 2 MI 2 MOP 2 NBIE 2 NYIP 2 NYOP
  2 NZUP 2 OP 2 PUT 2 PYT 2 QOT 2 SHAT 2 SHOP 2 SHUR 2 SHY 2 SSI 2 TAT 2 TU 2 VEP 2 VUR 2 WO 2 YIT 2
  YO 2 ZA 2 ZOT 2 ZUP 2 ZUR 2 ZZIET 1 SYLLABLE A 2 AP 2 AT 2 AX 2 BA 2 BAP 2 BAT 2 BAX 2 BBA 2 BBAP
  2 BBAT 2 BBAX 2 BBE 2 BBEP 2 BBEX 2 BBI 2 BBIE 2 BBIEP 2 BBIET 2 BBIEX 2 BBIP 2 BBIT 2 BBIX 2 BBO
  2 BBOP 2 BBOT 2 BBOX 2 BBU 2 BBUO 2 BBUOP 2 BBUOX 2 BBUP 2 BBUR 2 BBURX 2 BBUT 2 BBUX 2 BBY 2 BBYP
  2 BBYT 2 BBYX 2 BE 2 BEP 2 BEX 2 BI 2 BIE 2 BIEP 2 BIET 2 BIEX 2 BIP 2 BIT 2 BIX 2 BO 2 BOP 2 BOT
  2 BOX 2 BU 2 BUO 2 BUOP 2 BUOX 2 BUP 2 BUR 2 BURX 2 BUT 2 BUX 2 BY 2 BYP 2 BYR 2 BYRX 2 BYT 2 BYX
  2 CA 2 CAP 2 CAT 2 CAX 2 CE 2 CEP 2 CEX 2 CHA 2 CHAP 2 CHAT 2 CHAX 2 CHE 2 CHEP 2 CHET 2 CHEX 2
  CHO 2 CHOP 2 CHOT 2 CHOX 2 CHU 2 CHUO 2 CHUOP 2 CHUOT 2 CHUOX 2 CHUP 2 CHUR 2 CHURX 2 CHUX 2 CHY 2
  CHYP 2 CHYR 2 CHYRX 2 CHYT 2 CHYX 2 CI 2 CIE 2 CIEP 2 CIET 2 CIEX 2 CIP 2 CIT 2 CIX 2 CO 2 COP 2
  COT 2 COX 2 CU 2 CUO 2 CUOP 2 CUOX 2 CUP 2 CUR 2 CURX 2 CUT 2 CUX 2 CY 2 CYP 2 CYR 2 CYRX 2 CYT 2
  CYX 2 DA 2 DAP 2 DAT 2 DAX 2 DDA 2 DDAP 2 DDAT 2 DDAX 2 DDE 2 DDEP 2 DDEX 2 DDI 2 DDIE 2 DDIEP 2
  DDIEX 2 DDIP 2 DDIT 2 DDIX 2 DDO 2 DDOP 2 DDOT 2 DDOX 2 DDU 2 DDUO 2 DDUOP 2 DDUOX 2 DDUP 2 DDUR 2
  DDURX 2 DDUT 2 DDUX 2 DE 2 DEP 2 DEX 2 DI 2 DIE 2 DIEP 2 DIEX 2 DIP 2 DIT 2 DIX 2 DO 2 DOP 2 DOT 2
  DOX 2 DU 2 DUO 2 DUOX 2 DUP 2 DUR 2 DURX 2 DUT 2 DUX 2 E 2 EX 2 FA 2 FAP 2 FAT 2 FAX 2 FI 2 FIP 2
  FIT 2 FIX 2 FO 2 FOP 2 FOX 2 FU 2 FUP 2 FUR 2 FURX 2 FUT 2 FUX 2 FY 2 FYP 2 FYT 2 FYX 2 GA 2 GAP 2
  GAT 2 GAX 2 GE 2 GEP 2 GET 2 GEX 2 GGA 2 GGAP 2 GGAT 2 GGAX 2 GGE 2 GGEP 2 GGET 2 GGEX 2 GGI 2
  GGIE 2 GGIEP 2 GGIEX 2 GGIT 2 GGIX 2 GGO 2 GGOP 2 GGOT 2 GGOX 2 GGU 2 GGUO 2 GGUOP 2 GGUOT 2 GGUOX
  2 GGUP 2 GGUR 2 GGURX 2 GGUT 2 GGUX 2 GI 2 GIE 2 GIEP 2 GIET 2 GIEX 2 GIP 2 GIT 2 GIX 2 GO 2 GOP 2
  GOT 2 GOX 2 GU 2 GUO 2 GUOP 2 GUOT 2 GUOX 2 GUP 2 GUR 2 GURX 2 GUT 2 GUX 2 HA 2 HAP 2 HAT 2 HAX 2
  HE 2 HEP 2 HEX 2 HIE 2 HIEX 2 HIT 2 HLA 2 HLAP 2 HLAT 2 HLAX 2 HLE 2 HLEP 2 HLEX 2 HLI 2 HLIE 2
  HLIEP 2 HLIEX 2 HLIP 2 HLIT 2 HLIX 2 HLO 2 HLOP 2 HLOX 2 HLU 2 HLUO 2 HLUOP 2 HLUOX 2 HLUP 2 HLUR
  2 HLURX 2 HLUT 2 HLUX 2 HLY 2 HLYP 2 HLYR 2 HLYRX 2 HLYT 2 HLYX 2 HMA 2 HMAP 2 HMAT 2 HMAX 2 HMI 2
  HMIE 2 HMIEP 2 HMIEX 2 HMIP 2 HMIT 2 HMIX 2 HMO 2 HMOP 2 HMOT 2 HMOX 2 HMU 2 HMUO 2 HMUOP 2 HMUOX
  2 HMUP 2 HMUR 2 HMURX 2 HMUT 2 HMUX 2 HMY 2 HMYP 2 HMYR 2 HMYRX 2 HMYX 2 HNA 2 HNAP 2 HNAT 2 HNAX
  2 HNE 2 HNEP 2 HNEX 2 HNI 2 HNIE 2 HNIEP 2 HNIET 2 HNIEX 2 HNIP 2 HNIT 2 HNIX 2 HNOP 2 HNOT 2 HNOX
  2 HNUO 2 HNUOX 2 HNUT 2 HO 2 HOP 2 HOT 2 HOX 2 HUO 2 HUOP 2 HUOT 2 HUOX 2 HXA 2 HXAP 2 HXAT 2 HXAX
  2 HXE 2 HXEP 2 HXEX 2 HXI 2 HXIE 2 HXIEP 2 HXIET 2 HXIEX 2 HXIP 2 HXIT 2 HXIX 2 HXO 2 HXOP 2 HXOT
  2 HXOX 2 HXUO 2 HXUOP 2 HXUOT 2 HXUOX 2 I 2 IE 2 IEP 2 IET 2 IEX 2 IP 2 IT 2 ITERATION MARK 2 IX 2
  JI 2 JIE 2 JIEP 2 JIET 2 JIEX 2 JIP 2 JIT 2 JIX 2 JJI 2 JJIE 2 JJIEP 2 JJIET 2 JJIEX 2 JJIP 2 JJIT
  2 JJIX 2 JJO 2 JJOP 2 JJOT 2 JJOX 2 JJU 2 JJUO 2 JJUOP 2 JJUOX 2 JJUP 2 JJUR 2 JJURX 2 JJUT 2 JJUX
  2 JJY 2 JJYP 2 JJYT 2 JJYX 2 JO 2 JOP 2 JOT 2 JOX 2 JU 2 JUO 2 JUOP 2 JUOT 2 JUOX 2 JUP 2 JUR 2
  JURX 2 JUT 2 JUX 2 JY 2 JYP 2 JYR 2 JYRX 2 JYT 2 JYX 2 KA 2 KAP 2 KAT 2 KAX 2 KE 2 KEP 2 KET 2 KEX
  2 KI 2 KIE 2 KIEP 2 KIEX 2 KIP 2 KIT 2 KIX 2 KO 2 KOP 2 KOT 2 KOX 2 KU 2 KUO 2 KUOP 2 KUOX 2 KUP 2
  KUR 2 KURX 2 KUT 2 KUX 2 LA 2 LAP 2 LAT 2 LAX 2 LE 2 LEP 2 LEX 2 LI 2 LIE 2 LIEP 2 LIET 2 LIEX 2
  LIP 2 LIT 2 LIX 2 LO 2 LOP 2 LOT 2 LOX 2 LU 2 LUO 2 LUOP 2 LUOT 2 LUOX 2 LUP 2 LUR 2 LURX 2 LUT 2
  LUX 2 LY 2 LYP 2 LYR 2 LYRX 2 LYT 2 LYX 2 MA 2 MAP 2 MAT 2 MAX 2 ME 2 MEX 2 MGA 2 MGAP 2 MGAT 2
  MGAX 2 MGE 2 MGEP 2 MGEX 2 MGIE 2 MGIEX 2 MGO 2 MGOP 2 MGOT 2 MGOX 2 MGU 2 MGUO 2 MGUOP 2 MGUOX 2
  MGUP 2 MGUR 2 MGURX 2 MGUT 2 MGUX 2 MI 2 MIE 2 MIEP 2 MIEX 2 MIP 2 MIT 2 MIX 2 MO 2 MOP 2 MOT 2
  MOX 2 MU 2 MUO 2 MUOP 2 MUOT 2 MUOX 2 MUP 2 MUR 2 MURX 2 MUT 2 MUX 2 MY 2 MYP 2 MYT 2 MYX 2 NA 2
  NAP 2 NAX 2 NBA 2 NBAP 2 NBAT 2 NBAX 2 NBI 2 NBIE 2 NBIEP 2 NBIEX 2 NBIP 2 NBIT 2 NBIX 2 NBO 2
  NBOP 2 NBOT 2 NBOX 2 NBU 2 NBUP 2 NBUR 2 NBURX 2 NBUT 2 NBUX 2 NBY 2 NBYP 2 NBYR 2 NBYRX 2 NBYT 2
  NBYX 2 NDA 2 NDAP 2 NDAT 2 NDAX 2 NDE 2 NDEP 2 NDEX 2 NDI 2 NDIE 2 NDIEX 2 NDIP 2 NDIT 2 NDIX 2
  NDO 2 NDOP 2 NDOT 2 NDOX 2 NDU 2 NDUP 2 NDUR 2 NDURX 2 NDUT 2 NDUX 2 NE 2 NEP 2 NEX 2 NGA 2 NGAP 2
  NGAT 2 NGAX 2 NGE 2 NGEP 2 NGEX 2 NGIE 2 NGIEP 2 NGIEX 2 NGO 2 NGOP 2 NGOT 2 NGOX 2 NGUO 2 NGUOT 2
  NGUOX 2 NI 2 NIE 2 NIEP 2 NIEX 2 NIP 2 NIT 2 NIX 2 NJI 2 NJIE 2 NJIEP 2 NJIET 2 NJIEX 2 NJIP 2
  NJIT 2 NJIX 2 NJO 2 NJOP 2 NJOT 2 NJOX 2 NJU 2 NJUO 2 NJUOX 2 NJUP 2 NJUR 2 NJURX 2 NJUX 2 NJY 2
  NJYP 2 NJYR 2 NJYRX 2 NJYT 2 NJYX 2 NO 2 NOP 2 NOT 2 NOX 2 NRA 2 NRAP 2 NRAT 2 NRAX 2 NRE 2 NREP 2
  NRET 2 NREX 2 NRO 2 NROP 2 NROX 2 NRU 2 NRUP 2 NRUR 2 NRURX 2 NRUT 2 NRUX 2 NRY 2 NRYP 2 NRYR 2
  NRYRX 2 NRYT 2 NRYX 2 NU 2 NUO 2 NUOP 2 NUOX 2 NUP 2 NUR 2 NURX 2 NUT 2 NUX 2 NYI 2 NYIE 2 NYIEP 2
  NYIET 2 NYIEX 2 NYIP 2 NYIT 2 NYIX 2 NYO 2 NYOP 2 NYOT 2 NYOX 2 NYU 2 NYUO 2 NYUOP 2 NYUOX 2 NYUP
  2 NYUT 2 NYUX 2 NZA 2 NZAP 2 NZAT 2 NZAX 2 NZE 2 NZEX 2 NZI 2 NZIE 2 NZIEP 2 NZIEX 2 NZIP 2 NZIT 2
  NZIX 2 NZOP 2 NZOX 2 NZU 2 NZUO 2 NZUOX 2 NZUP 2 NZUR 2 NZURX 2 NZUX 2 NZY 2 NZYP 2 NZYR 2 NZYRX 2
  NZYT 2 NZYX 2 O 2 OP 2 OT 2 OX 2 PA 2 PAP 2 PAT 2 PAX 2 PI 2 PIE 2 PIEP 2 PIEX 2 PIP 2 PIT 2 PIX 2
  PO 2 POP 2 POT 2 POX 2 PU 2 PUO 2 PUOP 2 PUOX 2 PUP 2 PUR 2 PURX 2 PUT 2 PUX 2 PY 2 PYP 2 PYR 2
  PYRX 2 PYT 2 PYX 2 QI 2 QIE 2 QIEP 2 QIET 2 QIEX 2 QIP 2 QIT 2 QIX 2 QO 2 QOP 2 QOT 2 QOX 2 QU 2
  QUO 2 QUOP 2 QUOT 2 QUOX 2 QUP 2 QUR 2 QURX 2 QUT 2 QUX 2 QY 2 QYP 2 QYR 2 QYRX 2 QYT 2 QYX 2 RA 2
  RAP 2 RAT 2 RAX 2 RE 2 REP 2 REX 2 RO 2 ROP 2 ROT 2 ROX 2 RRA 2 RRAX 2 RRE 2 RREP 2 RRET 2 RREX 2
  RRO 2 RROP 2 RROT 2 RROX 2 RRU 2 RRUO 2 RRUOX 2 RRUP 2 RRUR 2 RRURX 2 RRUT 2 RRUX 2 RRY 2 RRYP 2
  RRYR 2 RRYRX 2 RRYT 2 RRYX 2 RU 2 RUO 2 RUOP 2 RUOX 2 RUP 2 RUR 2 RURX 2 RUT 2 RUX 2 RY 2 RYP 2
  RYR 2 RYRX 2 RYT 2 RYX 2 SA 2 SAP 2 SAT 2 SAX 2 SE 2 SEP 2 SEX 2 SHA 2 SHAP 2 SHAT 2 SHAX 2 SHE 2
  SHEP 2 SHET 2 SHEX 2 SHO 2 SHOP 2 SHOT 2 SHOX 2 SHU 2 SHUO 2 SHUOP 2 SHUOX 2 SHUP 2 SHUR 2 SHURX 2
  SHUT 2 SHUX 2 SHY 2 SHYP 2 SHYR 2 SHYRX 2 SHYT 2 SHYX 2 SI 2 SIE 2 SIEP 2 SIEX 2 SIP 2 SIT 2 SIX 2
  SO 2 SOP 2 SOT 2 SOX 2 SSA 2 SSAP 2 SSAT 2 SSAX 2 SSE 2 SSEP 2 SSEX 2 SSI 2 SSIE 2 SSIEP 2 SSIEX 2
  SSIP 2 SSIT 2 SSIX 2 SSO 2 SSOP 2 SSOT 2 SSOX 2 SSU 2 SSUP 2 SSUT 2 SSUX 2 SSY 2 SSYP 2 SSYR 2
  SSYRX 2 SSYT 2 SSYX 2 SU 2 SUO 2 SUOP 2 SUOX 2 SUP 2 SUR 2 SURX 2 SUT 2 SUX 2 SY 2 SYP 2 SYR 2
  SYRX 2 SYT 2 SYX 2 TA 2 TAP 2 TAT 2 TAX 2 TE 2 TEP 2 TEX 2 TI 2 TIE 2 TIEP 2 TIEX 2 TIP 2 TIT 2
  TIX 2 TO 2 TOP 2 TOT 2 TOX 2 TU 2 TUO 2 TUOP 2 TUOT 2 TUOX 2 TUP 2 TUR 2 TURX 2 TUT 2 TUX 2 UO 2
  UOP 2 UOX 2 VA 2 VAP 2 VAT 2 VAX 2 VEP 2 VEX 2 VI 2 VIE 2 VIEP 2 VIET 2 VIEX 2 VIP 2 VIT 2 VIX 2
  VO 2 VOP 2 VOT 2 VOX 2 VU 2 VUP 2 VUR 2 VURX 2 VUT 2 VUX 2 VY 2 VYP 2 VYR 2 VYRX 2 VYT 2 VYX 2 WA
  2 WAP 2 WAT 2 WAX 2 WE 2 WEP 2 WEX 2 WO 2 WOP 2 WOX 2 WU 2 WUO 2 WUOP 2 WUOX 2 XI 2 XIE 2 XIEP 2
  XIET 2 XIEX 2 XIP 2 XIT 2 XIX 2 XO 2 XOP 2 XOT 2 XOX 2 XUO 2 XUOX 2 XY 2 XYP 2 XYR 2 XYRX 2 XYT 2
  XYX 2 YI 2 YIE 2 YIEP 2 YIET 2 YIEX 2 YIP 2 YIT 2 YIX 2 YO 2 YOP 2 YOT 2 YOX 2 YU 2 YUO 2 YUOP 2
  YUOT 2 YUOX 2 YUP 2 YUR 2 YURX 2 YUT 2 YUX 2 YY 2 YYP 2 YYR 2 YYRX 2 YYT 2 YYX 2 ZA 2 ZAP 2 ZAT 2
  ZAX 2 ZE 2 ZEP 2 ZEX 2 ZHA 2 ZHAP 2 ZHAT 2 ZHAX 2 ZHE 2 ZHEP 2 ZHET 2 ZHEX 2 ZHO 2 ZHOP 2 ZHOT 2
  ZHOX 2 ZHU 2 ZHUO 2 ZHUOP 2 ZHUOX 2 ZHUP 2 ZHUR 2 ZHURX 2 ZHUT 2 ZHUX 2 ZHY 2 ZHYP 2 ZHYR 2 ZHYRX
  2 ZHYT 2 ZHYX 2 ZI 2 ZIE 2 ZIEP 2 ZIEX 2 ZIP 2 ZIT 2 ZIX 2 ZO 2 ZOP 2 ZOT 2 ZOX 2 ZU 2 ZUO 2 ZUOP
  2 ZUOX 2 ZUP 2 ZUR 2 ZURX 2 ZUT 2 ZUX 2 ZY 2 ZYP 2 ZYR 2 ZYRX 2 ZYT 2 ZYX 2 ZZA 2 ZZAP 2 ZZAT 2
  ZZAX 2 ZZE 2 ZZEP 2 ZZEX 2 ZZI 2 ZZIE 2 ZZIEP 2 ZZIET 2 ZZIEX 2 ZZIP 2 ZZIT 2 ZZIX 2 ZZO 2 ZZOP 2
  ZZOX 2 ZZU 2 ZZUP 2 ZZUR 2 ZZURX 2 ZZUX 2 ZZY 2 ZZYP 2 ZZYR 2 ZZYRX 2 ZZYT 2 ZZYX 0 YIN YANG 0
  YO-YO 0 Z NOTATION BAG MEMBERSHIP 2 DOMAIN ANTIRESTRICTION 2 LEFT BINDING BRACKET 3 IMAGE BRACKET
  2 RANGE ANTIRESTRICTION 2 RELATIONAL COMPOSITION 2 RIGHT BINDING BRACKET 3 IMAGE BRACKET 2 SCHEMA
  COMPOSITION 3 PIPING 3 PROJECTION 2 SPOT 2 TYPE COLON 0 ZANABAZAR SQUARE CLOSING DOUBLE-LINED HEAD
  MARK 3 HEAD MARK 2 CLUSTER-FINAL LETTER LA 4 RA 4 VA 4 YA 2 CLUSTER-INITIAL LETTER RA 2 FINAL
  CONSONANT MARK 2 INITIAL DOUBLE-LINED HEAD MARK 3 HEAD MARK 2 LETTER -A 3 A 3 BA 3 BHA 3 CA 3 CHA
  3 DA 3 DDA 3 DDHA 3 DHA 3 DZA 3 DZHA 3 GA 3 GHA 3 HA 3 JA 3 KA 3 KHA 3 KSSA 3 LA 3 MA 3 NA 3 NGA 3
  NNA 3 NYA 3 PA 3 PHA 3 RA 3 SA 3 SHA 3 SSA 3 TA 3 THA 3 TSA 3 TSHA 3 TTA 3 TTHA 3 VA 3 YA 3 ZA 3
  ZHA 2 MARK DOUBLE SHAD 3 LONG TSHEG 3 SHAD 3 TSHEG 2 SIGN ANUSVARA 3 CANDRA WITH ORNAMENT 3
  CANDRABINDU 4 WITH ORNAMENT 3 VIRAMA 3 VISARGA 2 SUBJOINER 2 VOWEL LENGTH MARK 3 SIGN AI 4 AU 4 E
  4 I 4 O 4 OE 4 REVERSED I 4 U 4 UE 0 ZEBRA FACE 0 ZERO WIDTH JOINER 2 NO-BREAK SPACE 2 NON-JOINER
  2 SPACE 0 ZEUS 0 ZIPPER-MOUTH FACE 0 ZNAMENNY COMBINING ATTACHING VERTICAL OMET 2 LOWER TONAL
  RANGE INDICATOR 2 MARK BORZAYA 3 CHASHKA 4 POLNAYA 3 CURVED OMET 3 DEMESTVENNY ZADERZHKA 3
  DVOETOCHIE 3 GORAZDO NIZKO ON LEFT 6 RIGHT 5 S KRYZHEM ON LEFT 8 RIGHT 4 VYSOKO 3 KACHKA 3 KRYZH 4
  ON LEFT 3 KUPNAYA 3 LOMKA 3 MALO POVYSHE ON LEFT 6 RIGHT 5 S KHOKHLOM ON LEFT 8 RIGHT 6 KRYZHEM 5
  STRANNO 3 NIZKO ON LEFT 5 RIGHT 4 S KRYZHEM ON LEFT 7 RIGHT 3 OBLACHKO 3 ON 3 OTSECHKA 3
  PODCHASHIE 4 WITH VERTICAL STROKE 3 PODVERTKA 3 POVYSHE ON LEFT 5 RIGHT 4 S KHOKHLOM ON LEFT 7
  RIGHT 5 KRYZHEM 4 STRANNO 3 RAVNO 3 RAZSEKA 3 SKOBA 3 SOROCHYA NOZHKA 3 SREDNE ON LEFT 5 RIGHT 3
  STRANNO MALO POVYSHE 3 TIKHAYA 3 TOCHKA 3 TSATA ON LEFT 5 RIGHT 4 S KRYZHEM 3 UDARKA 3 VYSOKO ON
  LEFT 5 RIGHT 4 S KHOKHLOM ON LEFT 7 RIGHT 5 KRYZHEM 3 ZADERZHKA 3 ZELO 3 ZEVOK 2 TONAL RANGE MARK
  MRACHNO 5 SVETLO 5 TRESVETLO 1 NEUME CHASHKA 2 CHELYUSTKA 2 DEMESTVENNY KLYUCH 2 DERBITSA 2 DOUBLE
  ZAPYATAYA 2 DUDA 2 DVA V CHELNU 2 FITA 2 GOLUBCHIK BORZY 3 MRACHNY 3 SVETLY 3 TIKHY 3 TRESVETLY 2
  KHAMILO 2 KLYUCH 2 KOBYLA 2 KRYUK 3 TIKHY 2 KRYZH 2 KUFISMA 2 MECHIK 3 KLYUCHENEPOSTOYANNY 3
  KLYUCHEPOVODNY 3 KLYUCHEVOY 3 POVODNY 2 NEMKA 2 OBLAKO 2 OSOKA 3 KLYUCHEVAYA NEPOSTOYANNAYA 4
  SVETLAYA 3 KRYUKOVAYA SVETLAYA 3 SVETLAYA 3 TRESVETLAYA 2 PALKA 2 PARAKLIT 2 PAUK 2 PEREVODKA 3
  NEPOSTOYANNAYA 2 PODCHASHIE 2 POLKULIZMY 2 REVERSED CHELYUSTKA 2 ROG 2 SKAMEYTSA DVOECHELNAYA
  KLYUCHEVAYA 4 NEPOSTOYANNAYA 4 PROSTAYA 4 SVETLAYA 3 KLYUCHENEPOSTOYANNAYA 3 KLYUCHEVAYA SVETLAYA
  4 TIKHAYA 3 MRACHNAYA 3 SVETLAYA 3 TIKHAYA 3 TRESVETLAYA 2 SLOZHITIE 3 S KRYZHEM 4 ZAPYATOY 3
  ZAKRYTOE 2 STATYA 3 NEPOSTOYANNAYA 3 S DVUMYA ZAPYATYMI 4 KRYZHEM 5 I ZAPYATOY 4 ROGOM 4 ZAPYATOY
  5 I KRYZHEM 6 PODCHASHIEM 3 ZAKRYTAYA 4 S ZAPYATOY 2 STOPITSA 3 S OCHKOM 3 WITH SOROCHYA NOZHKA 2
  STRELA DVOECHELNAYA 4 KLYUCHEVAYA 3 DVOECHELNOKRYZHEVAYA 3 DVOECHELNOPOVODNAYA 4 KLYUCHEVAYA 3
  GROMNAYA 4 WITH SINGLE ZAPYATAYA 3 GROMOKRYZHEVAYA 4 POVODNAYA 3 GROMOPOVODNAYA 4 WITH DOUBLE
  ZAPYATAYA 5 SINGLE ZAPYATAYA 3 KLYUCHENEPOSTOYANNAYA 3 KLYUCHEPOVODNAYA 3 KRYUKOVAYA 4 GROMNAYA 5
  WITH SINGLE ZAPYATAYA 4 GROMOKRYZHEVAYA 5 POVODNAYA 4 GROMOPOVODNAYA 5 WITH DOUBLE ZAPYATAYA 6
  SINGLE ZAPYATAYA 4 POVODNAYA 4 TRYASKA 3 KRYZHEVAYA 3 MRACHNOTIKHAYA 3 NEPOSTOYANNAYA 3
  POLUPOVODNAYA 3 POVODNAYA 3 PROSTAYA 3 TIKHAYA PUTNAYA 3 TRYASOGLASNAYA 3 TRYASOPOVODNAYA 3
  TRYASOSTRELNAYA 2 VRAKHIYA KLYUCHEVAYA MRACHNAYA 4 PROSTAYA 4 SVETLAYA 4 TRESVETLAYA 3 MRACHNAYA 3
  PROSTAYA 3 SVETLAYA 3 TRESVETLAYA 2 ZANOZHEK 2 ZAPYATAYA 2 ZMEYTSA 1 PRIZNAK MODIFIER DIRECTION
  FLIP 3 KRYZH 3 LEVEL-2 3 LEVEL-3 3 ROG 0 ZOMBIE 0 ZWJ 0 ZWNBSP 0 ZWNJ 0 ZWSP"

end FrameScript.Text
