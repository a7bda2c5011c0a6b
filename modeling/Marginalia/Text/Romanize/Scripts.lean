import Marginalia.Text.Basic

/-!
The letters of the scripts of the world in Latin letters, by their code points: alphabets, syllabaries, and the
signs among them.
-/

namespace Marginalia

namespace Text

/-- Letters by their code points: the first and the last of a run, and for each the Latin letters, in lower case,
with hyphens for other signs and a point for nothing. -/
def romanRuns : List (Nat × Nat × String) :=
  [
    (0xa2, 0xff, "c- ps - y- - ss - -c- a - - . -r- - deg - 2 3 - u p - - 1 o - 1-4 1-2 3-4 - a a a a a a ae c e e e e i i " ++
      "i i d n o o o o o x o u u u u y th ss a a a a a a ae c e e e e i i i i d n o o o o o - o u u u u y th y"),
    (0x100, 0x1ff, "a a a a a a c c c c c c c c d d d d e e e e e e e e e e g g g g g g g g h h h h i i i i i i i i i i ij " ++
      "ij j j k k k l l l l l l l l l l n n n n n n -n ng ng o o o o o o oe oe r r r r r r s s s s s s s s t t " ++
      "t t t t u u u u u u u u u u u u w w y y y z z z z z z s b b b b 6 6 o c c d d d d d 3 - e f f g g hv i i " ++
      "k k l l w n n o o o oi oi p p yr 2 2 sh sh t t t t u u y v y y z z zh zh zh zh 2 5 5 ts w - - - - dz dz " ++
      "dz lj lj lj nj nj nj a a i i o o u u u u u u u u u u - a a a a ae ae g g g g k k o o o o zh zh j dz dz " ++
      "dz g g hv w n n a a ae ae o o"),
    (0x200, 0x2b8, "a a a a e e e e i i i i o o o o r r r r u u u u s s t t y y h h n d ou ou z z a a e e o o o o o o o o y " ++
      "y l n t j db qp a c c l t s z . . b u - e e j j q q r r y y a a a b o c d d e - - e e e e j g g g g u y " ++
      "h h i i i l l l lz w w m n n n o oe o f r r r r r r r r r s s j s s t t u u v - w y y z z z z - - - c - " ++
      "b e g h j k l q - - dz dz dz ts ts tc fn ls lz ww - h h k h j r r r r w y"),
    (0x2c5, 0x2cd, "v - v - - - - - _"),
    (0x2d5, 0x2ec, "v - - v - - - - - r x g l s x - . . . . . . . v"),
    (0x360, 0x36f, ". . . a e i o u c d h m r t v x"),
    (0x37a, 0x37a, "."),
    (0x384, 0x3f3, ". . a - e e i - o - u o i a b g d e z e th i k l m n ks o p r - s t u ph kh ps o i u a e e i u a b g d e " ++
      "z e th i k l m n x o p r s s t u ph kh ps o i u o u o - b th u u u ph p - - - st st w w q q sp sp sh sh " ++
      "f f kh kh h h g g ch ch ti ti k r c j"),
    (0x400, 0x4f9, "ie io dj gj ie dz i yi j lj nj tsh kj i u dzh a b v g d e zh z i i k l m n o p r s t u f kh ts ch sh " ++
      "shch - y - e iu ia a b v g d e zh z i i k l m n o p r s t u f kh ts ch sh shch - y - e iu ia ie io dj gj " ++
      "ie dz i yi j lj nj tsh kj i u dzh o o e e ie ie e e ie ie o o io io ks ks ps ps f f y y y y u u o o o o " ++
      "ot ot q q -1000- . . . . - -100-000- -1-000-000- - - - - r- r- g- g- g- g- g- g- zh- zh- z- z- k- k- k- " ++
      "k- k- k- k- k- n- n- ng ng p- p- kh kh s- s- t- t- u u u- u- kh- kh- tts tts ch- ch- ch- ch- h h ch ch " ++
      "ch- ch- - zh zh k- k- - - n- n- - - ch ch - - - a a a a ae ae ie ie - - - - zh zh z z dz dz i i i i o o " ++
      "o o o o e e u u u u u u ch ch - - y y"),
    (0x531, 0x556, "a b g d e z e e t- zh i l kh ts k h dz gh ch m y n sh o ch- p j rh s v t r ts- w p- k- o f"),
    (0x561, 0x587, "a b g d e z e e t- zh i l kh ts k h dz gh ch m y n sh o ch- p j rh s v t r ts- w p- k- o f ew"),
    (0x5b1, 0x5c4, "e a o i e e a a o - u - . - - - . . - ."),
    (0x5d0, 0x5f2, ". b g d h v z kh t y k k l m m n n s - p p ts ts q r sh t - - - - - v oy i"),
    (0x621, 0x653, ". a - w- . y- . b - t th j h kh d dh r z s sh s d t z - gh - - - - - . f q k l m n h w - y an un in a u " ++
      "i w . ."),
    (0x660, 0x6dc, "0 1 2 3 4 5 6 7 8 9 - - - - - - . - - - . - -w -u -y tt tth b t t p th bh -h h ny dyh h ch cch dd d d dt " ++
      "dh ddh d d d rr r r r r r r j r s s s s s t gh f f f v f ph q q kh k k k ng k g g n g g g l l l l n n n " ++
      "n n h ch hy h h - w oe oe u yu yu w v y y y w . . y y - ae . . . . . . ."),
    (0x6ea, 0x6fe, ". . . . - - 0 1 2 3 4 5 6 7 8 9 sh d gh - -m"),
    (0x70f, 0x747, ". - . b g g d d h w z h t t y yh k l m n s s - p p s q r sh t - - - a a a a a a e e e e i i u u u o . - " ++
      "- . . . x q"),
    (0x780, 0x7b0, "h sh n r b l k - v m f dh th l g ny s d z t y p j ch tt hh kh th z sh s d t z - gh q w a aa i ee u oo e " ++
      "ey o oa ."),
    (0x901, 0x950, "n n h - a aa i ii u uu r l en e e ai on o o au k kh g gh ng c ch j jh ny tt tth dd ddh nn t th d dh n " ++
      "nnn p ph b bh m y r rr l l lll v sh ss s h - - - - aa i ii u uu r rr en e e ai on o o au . - - aum"),
    (0x958, 0x96f, "q khh ghh z dddh rh f yy rr ll l ll - - 0 1 2 3 4 5 6 7 8 9"),
    (0x981, 0x9cd, "n n h - a aa i ii u uu r rr - - e ai - - o au k kh g gh ng c ch j jh ny tt tth dd ddh nn t th d dh n - p " ++
      "ph b bh m y r - l - - - sh ss s h - - - - aa i ii u uu r rr - - e ai - - o au ."),
    (0x9dc, 0x9fa, "rr rh - yy rr ll l ll - - 0 1 2 3 4 5 6 7 8 9 r- r- rs rs 1- 2- 3- 4- -1-1- -16 ."),
    (0xa02, 0xa4d, "n - - a aa i ii u uu - - - - ee ai - - oo au k kh g gh ng c ch j jh ny tt tth dd ddh nn t th d dh n - p " ++
      "ph b bb m y r - l ll - v sh - s h - - - - aa i ii u uu - - - - ee ai - - oo au ."),
    (0xa59, 0xa5e, "khh ghh z rr - f"),
    (0xa66, 0xa74, "0 1 2 3 4 5 6 7 8 9 n h . . g-e-o-"),
    (0xa81, 0xad0, "n n h - a aa i ii u uu r - en - e ai on - o au k kh g gh ng c ch j jh ny tt tth dd ddh nn t th d dh n - " ++
      "p ph b bh m ya r - l ll - v sh ss s h - - - - aa i ii u uu r rr en - e ai on - o au . - - aum"),
    (0xae0, 0xaef, "rr - - - - - 0 1 2 3 4 5 6 7 8 9"),
    (0xb01, 0xb4d, "n n h - a aa i ii u uu r l - - e ai - - o au k kh g gh ng c ch j jh ny tt tth dd ddh nn t th d dh n - p " ++
      "ph b bh m y r - l ll - . sh ss s h - - - - aa i ii u uu r - - - e ai - - o au ."),
    (0xb5c, 0xb70, "rr rh - yy rr ll - - - - 0 1 2 3 4 5 6 7 8 9 ."),
    (0xb82, 0xbcd, "n h - a aa i ii u uu - - - e ee ai - o oo au k - - - ng c - j - ny tt - - - nn t - - - n nnn p - - - m y " ++
      "r rr l ll lll v - ss s h - - - - aa i ii u uu - - - e ee ai - o oo au ."),
    (0xbe7, 0xbf2, "1 2 3 4 5 6 7 8 9 -10- -100- -1000-"),
    (0xc01, 0xc4d, "n n h - a aa i ii u uu r l - e ee ai - o oo au k kh g gh ng c ch j jh ny tt tth dd ddh nn t th d dh n - " ++
      "p ph b bh m y r rr l ll - v sh ss s h - - - - aa i ii u uu r rr - e ee ai - o oo au ."),
    (0xc60, 0xc6f, "rr ll - - - - 0 1 2 3 4 5 6 7 8 9"),
    (0xc82, 0xccd, "n h - a aa i ii u uu r l - e ee ai - o oo au k kh g gh ng c ch j jh ny tt tth dd ddh nn t th d dh n - p " ++
      "ph b bh m y r rr l ll - v sh ss s h - - - - aa i ii u uu r rr - e ee ai - o oo au ."),
    (0xcde, 0xcef, "lll - rr ll - - - - 0 1 2 3 4 5 6 7 8 9"),
    (0xd02, 0xd4d, "n h - a aa i ii u uu r l - e ee ai - o oo au k kh g gh ng c ch j jh ny tt tth dd ddh nn t th d dh n - p " ++
      "ph b bh m y r rr l ll lll v sh ss s h - - - - aa i ii u uu r - - e ee ai . o oo au ."),
    (0xd60, 0xd6f, "rr ll - - - - 0 1 2 3 4 5 6 7 8 9"),
    (0xd82, 0xddf, "n h - a aa ae aae i ii u uu r rr l ll e ee ai o oo au - - - k kh g gh ng nng c ch j jh ny jny nyj tt tth " ++
      "dd ddh nn nndd t th d dh n - nd p ph b bh m mb y r - l - - v sh ss s h ll f - - - . - - - - aa ae aae i " ++
      "ii u - uu - r e ee ai o oo au l"),
    (0xdf2, 0xdf3, "rr ll"),
    (0xe01, 0xe59, "k kh kh kh kh kh ng cch ch ch ch ch y d t th th th n d t th th th n b p ph f ph f ph m y r r l l w s s s " ++
      "h l - h - a a aa am i ii ue uue u uu - - - - - bh- e ae o ai ai ao - . . . . . . m . - 0 1 2 3 4 5 6 7 8 " ++
      "9"),
    (0xe81, 0xedd, "k kh - kh - - ng ch - s - - ny - - - - - - d h th th - n b p ph f ph f - m y r - l - w - - s h - - . - a " ++
      ". aa am i ii y yy u uu - o l ny - - e ei o ay ai - - - . . . . . m - - 0 1 2 3 4 5 6 7 8 9 - - hn hm"),
    (0xf00, 0xf13, "aum . . . . . . . - - . - - - - - - x- -xx- -x-"),
    (0xf20, 0xf81, "0 1 2 3 4 5 6 7 8 9 -5 1-5 2-5 3-5 4-5 5-5 6-5 7-5 8-5 -5 - - - _ . - - - - - . . k kh g gh ng c ch j - " ++
      "ny tt tth dd ddh nn t th d dh n p ph b bh m ts tsh dz dzh w zh z - y r l sh ssh s h a kss r - - - - - - " ++
      "aa i ii u uu r rr l ll e ee o oo m h i ii"),
    (0xf90, 0xfbc, "k kh g gh ng c ch j - ny tt tth dd ddh nn t th d dh n p ph b bh m ts tsh dz dzh w zh z - y r l sh ss s h " ++
      "a kss w y r"),
    (0x1000, 0x1059, "k kh g gh ng c ch j jh ny nny tt tth dd ddh nn tt th d dh n p ph b bh m y r l w s h ll a - i ii u uu e - " ++
      "o au - aa i ii u uu e ai - - - n - - . - - - - - - 0 1 2 3 4 5 6 7 8 9 - - n- r- l- e- sh ss r rr l ll r " ++
      "rr l ll"),
    (0x10a0, 0x10c5, "a b g d e v z t- i k l m n o p zh r s t u p- k- g- q sh ch- c- z- c ch x j h e y w xh oe"),
    (0x10d0, 0x10f6, "a b g d e v z t- i k l m n o p zh r s t u p- k- g- q sh ch- c- z- c ch x j h e y w xh oe f"),
    (0x1100, 0x11f9, "g gg n d dd r m b bb s ss . j jj c k t p h ng nn nd nb dg rn rr rh rn mb mn bg bn . bs bsg bst bsb bss " ++
      "bsj bj bc bt bp bn bbn sg sn sd sr sm sb sbg sss s sj sc sk st sp sh . . . . z g d m b s z . j c t p n j " ++
      ". . . . ck ch . . pb pn hh q - - - - - . . a ae ya yae eo e yeo ye o wa wae oe yo u weo we wi yu eu yi i " ++
      "a-o a-u ya-o ya-yo eo-o eo-u eo-eu yeo-o yeo-u o-eo o-e o-ye o-o o-u yo-ya yo-yae yo-yeo yo-o yo-i u-a " ++
      "u-ae u-eo-eu u-ye u-u yu-a yu-eo yu-e yu-yeo yu-ye yu-u yu-i eu-u eu-eu yi-u i-a i-ya i-o i-u i-eu i-u u " ++
      "u-eo u-u u-i uu - - - - - g gg gs n nj nh d l lg lm lb ls lt lp lh m b bs s ss ng j c k t p h gl gsg ng " ++
      "nd ns nz nt dg tl lgs ln ld lth ll lmg lms lbs lbh rnp lss lz lk lq mg ml mb ms mss mz mc mh mn bl bp ph " ++
      "pn sg sd sl sb z g ss . kh n ns nz pb pn hn hl hm hb q"),
    (0x1200, 0x12ff, "ha hu hi haa hee he ho - la lu li laa lee le lo lwa hha hhu hhi hhaa hhee hhe hho hhwa ma mu mi maa mee " ++
      "me mo mwa sza szu szi szaa szee sze szo szwa ra ru ri raa ree re ro rwa sa su si saa see se so swa sha " ++
      "shu shi shaa shee she sho shwa qa qu qi qaa qee qe qo - qwa - qwi qwaa qwee qwe - - qha qhu qhi qhaa " ++
      "qhee qhe qho - qhwa - qhwi qhwaa qhwee qhwe - - ba bu bi baa bee be bo bwa va vu vi vaa vee ve vo vwa ta " ++
      "tu ti taa tee te to twa ca cu ci caa cee ce co cwa xa xu xi xaa xee xe xo - xwa - xwi xwaa xwee xwe - - " ++
      "na nu ni naa nee ne no nwa nya nyu nyi nyaa nyee nye nyo nywa -a -u - -aa -ee -e -o - ka ku ki kaa kee " ++
      "ke ko - kwa - kwi kwaa kwee kwe - - kxa kxu kxi kxaa kxee kxe kxo - kxwa - kxwi kxwaa kxwee kxwe - - wa " ++
      "wu wi waa wee we wo - -a -u -i -aa -ee -e -o - za zu zi zaa zee ze zo zwa zha zhu zhi zhaa zhee zhe zho " ++
      "zhwa ya yu yi yaa yee ye yo - da du di daa dee de do dwa dda ddu ddi ddaa ddee dde ddo ddwa"),
    (0x1300, 0x135a, "ja ju ji jaa jee je jo jwa ga gu gi gaa gee ge go - gwa - gwi gwaa gwee gwe - - gga ggu ggi ggaa ggee " ++
      "gge ggo - tha thu thi thaa thee the tho thwa cha chu chi chaa chee che cho chwa pha phu phi phaa phee " ++
      "phe pho phwa tsa tsu tsi tsaa tsee tse tso tswa tza tzu tzi tzaa tzee tze tzo - fa fu fi faa fee fe fo " ++
      "fwa pa pu pi paa pee pe po pwa rya mya fya"),
    (0x1369, 0x137c, "1 2 3 4 5 6 7 8 9 10- 20- 30- 40- 50- 60- 70- 80- 90- 100- 10-000-"),
    (0x13a0, 0x13f4, "a e i o u v ga ka ge gi go gu gv ha he hi ho hu hv la le li lo lu lv ma me mi mo mu na hna nah ne ni no " ++
      "nu nv qua que qui quo quu quv sa s se si so su sv da ta de te di ti do du dv dla tla tle tli tlo tlu tlv " ++
      "tsa tse tsi tso tsu tsv wa we wi wo wu wv ya ye yi yo yu yv"),
    (0x1401, 0x14ff, "ai aai i ii u uu oo ee i a aa we we wi wi wii wii wo wo woo woo woo wa wa waa waa waa ai w - t k sh s n " ++
      "w n - w c - l en in on an pai paai pi pii pu puu poo hee hi pa paa pwe pwe pwi pwi pwii pwii pwo pwo " ++
      "pwoo pwoo pwa pwa pwaa pwaa pwaa p p h tai taai ti tii tu tuu too dee di ta taa twe twe twi twi twii " ++
      "twii two two twoo twoo twa twa twaa twaa twaa t tte tti tto tta kai kaai ki kii ku kuu koo ka kaa kwe " ++
      "kwe kwi kwi kwii kwii kwo kwo kwoo kwoo kwa kwa kwaa kwaa kwaa k kw keh kih koh kah gai caai gi gii gu " ++
      "guu coo ga gaa cwe cwe cwi cwi cwii cwii cwo cwo cwoo cwoo cwa cwa cwaa cwaa cwaa g th mai maai mi mii " ++
      "mu muu moo ma maa mwe mwe mwi mwi mwii mwii mwo mwo mwoo mwoo mwa mwa mwaa mwaa mwaa m m mh m m nai naai " ++
      "ni nii nu nuu noo na naa nwe nwe nwa nwa nwaa nwaa nwaa n ng nh lai laai li lii lu luu loo la laa lwe " ++
      "lwe lwi lwi lwii lwii lwo lwo lwoo lwoo lwa lwa lwaa lwaa l l l sai saai si sii su suu soo sa saa swe " ++
      "swe swi swi swii swii swo swo swoo swoo"),
    (0x1500, 0x15ff, "swa swa swaa swaa swaa s s sw s sk skw sw spwa stwa skwa scwa she shi shii sho shoo sha shaa shwe shwe " ++
      "shwi shwi shwii shwii shwo shwo shwoo shwoo shwa shwa shwaa shwaa sh jai yaai ji jii ju juu yoo ja jaa " ++
      "ywe ywe ywi ywi ywii ywii ywo ywo ywoo ywoo ywa ywa ywaa ywaa ywaa j y y yi re rai le raai ri rii ru ruu " ++
      "lo ra raa la rwaa rwaa r r r fai faai fi fii fu fuu fa faa fwaa fwaa f the the thi thi thii thii tho " ++
      "thoo tha thaa thwaa thwaa th tthe tthi ttho ttha tth tye tyi tyo tya he hi hii ho hoo ha haa h h hk qaai " ++
      "qi qii qu quu qa qaa q tlhe tlhi tlho tlha re ri ro ra ngaai ngi ngii ngu nguu nga ngaa ng nng sche schi " ++
      "scho scha the thi tho tha th lhi lhii lho lhoo lha lhaa lh the thi thii tho thoo tha thaa th b e i o a " ++
      "we wi wo wa ne ni no na ke ki ko ka he hi ho ha ghu gho ghe ghee ghi gha ru ro re ree ri ra wu wo we wee " ++
      "wi wa hwu hwo hwe hwee hwi hwa thu tho the thee thi tha ttu tto tte ttee tti tta pu po pe pee pi pa p gu " ++
      "go ge gee gi ga khu kho khe khee khi kha kku kko kke kkee kki"),
    (0x1600, 0x1676, "kka kk nu no ne nee ni na mu mo me mee mi ma yu yo ye yee yi ya ju ju jo je jee ji ji ja jju jjo jje " ++
      "jjee jji jja lu lo le lee li la dlu dlo dle dlee dli dla lhu lho lhe lhee lhi lha tlhu tlho tlhe tlhee " ++
      "tlhi tlha tlu tlo tle tlee tli tla zu zo ze zee zi za z z dzu dzo dze dzee dzi dza su so se see si sa " ++
      "shu sho she shee shi sha sh tsu tso tse tsee tsi tsa chu cho che chee chi cha ttsu ttso ttse ttsee ttsi " ++
      "ttsa x - qai ngai nngi nngii nngo nngoo nnga nngaa"),
    (0x1681, 0x16f0, "b l f s n h d t c q m g ng z r a o u e i ch th ph p x p - - - - - f v u yr y w th th a o ac ae o o o oe " ++
      "on r k c k g ng g g w h h h h n n n i e j g ae a eo p z s s s c z t t d b b p p e m m m l l ng ng d o " ++
      "ear ior qu qu qu s yr yr yr q x - - - 17 18 19"),
    (0x1780, 0x17d3, "k kh g gh ng c ch j jh ny t tth d ddh nn t th d dh n p ph b bh m y r l v sh ss s h l q a aa i ii u uk uu " ++
      "uuv ry ryy ly lyy e ai oo oo au a aa aa i ii y yy u uu ua oe ya ie e ae ai oo au m h a- . . . r . - . . " ++
      ". . ."),
    (0x17db, 0x17e9, "kr - - - - 0 1 2 3 4 5 6 7 8 9"),
    (0x1806, 0x1877, ". - - - . . . . . - 0 1 2 3 4 5 6 7 8 9 - - - - - - a e i o u o u ee n ng b p q g m l s sh t d ch j y r " ++
      "w f k kha ts z h zr lh zh ch - e i o u o u ng b p q g m t d ch j ts y w k g h jy ny dz e i iy u u ng k g " ++
      "h p sh t d j f g h ts z r ch zh i k r f zh"),
    (0x1880, 0x18a7, "h x w m -3- -333- a i k ng c tt tth dd nn t d p ph ss zh z a t zh gh ng c jh tta ddh t dh ss cy zh z u y " ++
      "bh"),
    (0x1d6c, 0x1d8e, "b d f m n p r r s t z g . . . . . p . . b d f g k l m n p r s . v x z"),
    (0x1e00, 0x1ef9, "a a b b b b b b c c d d d d d d d d d d e e e e e e e e e e f f g g h h h h h h h h h h i i i i k k k k " ++
      "k k l l l l l l l l m m m m m m n n n n n n n n o o o o o o o o p p p p r r r r r r r r s s s s s s s s " ++
      "s s t t t t t t t t u u u u u u u u u u v v v v w w w w w w w w w w x x x x y y z z z z z z h t w y a s " ++
      "- - ss - a a a a a a a a a a a a a a a a a a a a a a a a e e e e e e e e e e e e e e e e i i i i o o o o " ++
      "o o o o o o o o o o o o o o o o o o o o u u u u u u u u u u u u u u y y y y y y y y"),
    (0x1f00, 0x1ffc, "a a a a a a a a a a a a a a a a e e e e e e - - e e e e e e - - e e e e e e e e e e e e e e e e i i i i " ++
      "i i i i i i i i i i i i o o o o o o - - o o o o o o - - u u u u u u u u - u - u - u - u o o o o o o o o " ++
      "o o o o o o o o a a e e e e i i o o u u o o - - a a a a a a a a a a a a a a a a e e e e e e e e e e e e " ++
      "e e e e o o o o o o o o o o o o o o o o a a a a a - a a a a a a a - i - - - e e e - e e e e e e e - - - " ++
      "i i i i - - i i i i i i - - - - u u u u r r u u u u u u r - - - - - o o o - o o o o o o o"),
    (0x200c, 0x200f, ". . . ."),
    (0x2017, 0x2017, "_"),
    (0x202a, 0x2031, ". . . . . - -0 -00"),
    (0x203f, 0x203f, "_"),
    (0x204a, 0x204b, "7 pp"),
    (0x2070, 0x2089, "0 i . . 4 5 6 7 8 9 - - - - - n 0 1 2 3 4 5 6 7 8 9"),
    (0x20a0, 0x20af, "ecu cl cr ff l mil n pts rs w ns d eu k t dr"),
    (0x212a, 0x2132, "k a . . . . . . f"),
    (0x214e, 0x2181, "f - - - - -1-3- -2-3- -1-5- -2-5- -3-5- -4-5- -1-6- -5-6- -1-8- -3-8- -5-8- -7-8- -1- i ii iii iv v vi " ++
      "vii viii ix x xi xii l c d m i ii iii iv v vi vii viii ix x xi xii l c d m -d d-"),
    (0x21b7, 0x21ba, "v - - v"),
    (0x2460, 0x24ea, "1 2 3 4 5 6 7 8 9 10 11 12 13 14 15 16 17 18 19 20 -1- -2- -3- -4- -5- -6- -7- -8- -9- -10- -11- -12- " ++
      "-13- -14- -15- -16- -17- -18- -19- -20- 1- 2- 3- 4- 5- 6- 7- 8- 9- 10- 11- 12- 13- 14- 15- 16- 17- 18- " ++
      "19- 20- -a- -b- -c- -d- -e- -f- -g- -h- -i- -j- -k- -l- -m- -n- -o- -p- -q- -r- -s- -t- -u- -v- -w- -x- " ++
      "-y- -z- a b c d e f g h i j k l m n o p q r s t u v w x y z a b c d e f g h i j k l m n o p q r s t u v " ++
      "w x y z 0"),
    (0x25bc, 0x25bf, "v v v v"),
    (0x25ef, 0x25ef, "o"),
    (0x2701, 0x2709, ". . . . - . . . ."),
    (0x274d, 0x2767, ". - . . . . - - - . - . . . . . . . - - . . . . . . ."),
    (0x2801, 0x28ff, "a 1 b - k 2 l - c i f - m s p - e 3 h 9 o 6 r - d j g - n t q - - 5 - - u 8 v - - - - - x - - - - 4 - 0 " ++
      "z 7 - _ - w - - y - - -d7- -d17- -d27- -d127- -d37- -d137- -d237- -d1237- -d47- -d147- -d247- -d1247- " ++
      "-d347- -d1347- -d2347- -d12347- -d57- -d157- -d257- -d1257- -d357- -d1357- -d2357- -d12357- -d457- " ++
      "-d1457- -d2457- -d12457- -d3457- -d13457- -d23457- -d123457- -d67- -d167- -d267- -d1267- -d367- -d1367- " ++
      "-d2367- -d12367- -d467- -d1467- -d2467- -d12467- -d3467- -d13467- -d23467- -d123467- -d567- -d1567- " ++
      "-d2567- -d12567- -d3567- -d13567- -d23567- -d123567- -d4567- -d14567- -d24567- -d124567- -d34567- " ++
      "-d134567- -d234567- -d1234567- -d8- -d18- -d28- -d128- -d38- -d138- -d238- -d1238- -d48- -d148- -d248- " ++
      "-d1248- -d348- -d1348- -d2348- -d12348- -d58- -d158- -d258- -d1258- -d358- -d1358- -d2358- -d12358- " ++
      "-d458- -d1458- -d2458- -d12458- -d3458- -d13458- -d23458- -d123458- -d68- -d168- -d268- -d1268- -d368- " ++
      "-d1368- -d2368- -d12368- -d468- -d1468- -d2468- -d12468- -d3468- -d13468- -d23468- -d123468- -d568- " ++
      "-d1568- -d2568- -d12568- -d3568- -d13568- -d23568- -d123568- -d4568- -d14568- -d24568- -d124568- " ++
      "-d34568- -d134568- -d234568- -d1234568- -d78- -d178- -d278- -d1278- -d378- -d1378- -d2378- -d12378- " ++
      "-d478- -d1478- -d2478- -d12478- -d3478- -d13478- -d23478- -d123478- -d578- -d1578- -d2578- -d12578- " ++
      "-d3578- -d13578- -d23578- -d123578- -d4578- -d14578- -d24578- -d124578- -d34578- -d134578- -d234578- " ++
      "-d1234578- -d678- -d1678- -d2678- -d12678- -d3678- -d13678- -d23678- -d123678- -d4678- -d14678- -d24678- " ++
      "-d124678- -d34678- -d134678- -d234678- -d1234678- -d5678- -d15678- -d25678- -d125678- -d35678- -d135678- " ++
      "-d235678- -d1235678- -d45678- -d145678- -d245678- -d1245678- -d345678- -d1345678- -d2345678- -d12345678-"),
    (0x2c60, 0x2c76, "l l l p r a t h h k k z z . m a . . . . . h h"),
    (0x3004, 0x3007, "-jis- - - 0"),
    (0x3013, 0x3013, "x-"),
    (0x3021, 0x30fa, "1 2 3 4 5 6 7 8 9 . . . . . . - - - - - . - - -10- -20- -30- - - - . . - a a i i u u e e o o ka ga ki gi " ++
      "ku gu ke ge ko go sa za shi zi su zu se ze so zo ta da chi di tsu tsu du te de to do na ni nu ne no ha " ++
      "ba pa hi bi pi hu bu pu he be pe ho bo po ma mi mu me mo ya ya yu yu yo yo ra ri ru re ro wa wa wi we wo " ++
      "n vu - - - - . . . . - - - - a a i i u u e e o o ka ga ki gi ku gu ke ge ko go sa za shi zi su zu se ze " ++
      "so zo ta da chi di tsu tsu du te de to do na ni nu ne no ha ba pa hi bi pi hu bu pu he be pe ho bo po ma " ++
      "mi mu me mo ya ya yu yu yo yo ra ri ru re ro wa wa wi we wo n vu ka ke va vi ve vo"),
    (0x3105, 0x318e, "b p m f d t n l g k h j q x zh ch sh r z c s a o e eh ai ei au ou an en ang eng er i u iu v ng gn - - - " ++
      "- g gg gs n nj nh d dd r lg lm lb ls lt lp rh m b bb bs s ss . j jj c k t p h a ae ya yae eo e yeo ye o " ++
      "wa wae oe yo u weo we wi yu eu yi i . nn nd ns nz lgs ld lbs lz lq mb ms mz mn bg . bsg bst bj bt bn bbn " ++
      "sg sn sd sb sj z . n ns nz pn hh q yo-ya yo-yae yo-i yu-yeo yu-ye yu-i u u-i"),
    (0x31a0, 0x31b7, "bu zi ji gu ee enn oo onn ir ann inn unn im ngg ainn aunn am om ong innn p t k h"),
    (0x3200, 0x3241, "-g- -n- -d- -r- -m- -b- -s- - -j- -c- -k- -t- -p- -h- -ga- -na- -da- -ra- -ma- -ba- -sa- -a- -ja- -ca- " ++
      "-ka- -ta- -pa- -ha- -ju- - - - -1- -2- -3- -4- -5- -6- -7- -8- -9- -10- -yue- -huo- -shui- -mu- -jin- " ++
      "-tu- -ri- -zhu- -you- -she- -ming- -te- -cai- -zhu- -lao- -dai- -hu- -xue- -jian- -qi- -zi- -xie- -ji- " ++
      "-xiu-"),
    (0x3260, 0x32af, "-g- -n- -d- -r- -m- -b- -s- - -j- -c- -k- -t- -p- -h- -ga- -na- -da- -ra- -ma- -ba- -sa- -a- -ja- -ca- " ++
      "-ka- -ta- -pa- -ha- - - - kis- -1- -2- -3- -4- -5- -6- -7- -8- -9- -10- -yue- -huo- -shui- -mu- -jin- " ++
      "-tu- -ri- -zhu- -you- -she- -ming- -te- -cai- -zhu- -mi- -nan- -nu- -shi- -you- -yin- -zhu- -xiang- " ++
      "-xiu- -xie- -zheng- -shang- -zhong- -xia- -zuo- -you- -yi- -zong- -xue- -jian- -qi- -zi- -xie- -ye-"),
    (0x32c0, 0x32fe, "1m 2m 3m 4m 5m 6m 7m 8m 9m 10m 11m 12m - - - - a i u u o ka ki ku ke ko sa si su se so ta ti tu te to na " ++
      "ni nu ne no ha hi hu he ho ma mi mu me mo ya yu yo ra ri ru re ro wa wi we wo"),
    (0x3300, 0x33fe, "apartment alpha ampere are inning inch won escudo acre ounce ohm kai-ri carat calorie gallon gamma giga " ++
      "guinea curie guilder kilo kilogram kilometer kilowatt gram gram-ton cruzeiro krone case koruna co-op " ++
      "cycle centime shilling centi cent dozen desi dollar ton nano knot heights percent parts barrel piaster " ++
      "picul pico building farad feet bushel franc hectare peso pfennig hertz pence page beta point volt hon " ++
      "pound hall horn micro mile mach mark mansion micron milli millibar mega megaton meter yard yard yuan " ++
      "liter lira rupee ruble rem roentgen watt 0h 1h 2h 3h 4h 5h 6h 7h 8h 9h 10h 11h 12h 13h 14h 15h 16h 17h " ++
      "18h 19h 20h 21h 22h 23h 24h hpa da au bar ov pc - - - - heisei syouwa taisyou meiji inc- pa na microamp " ++
      "ma ka kb mb gb cal kcal pf nf microfarad microgram mg kg hz khz mhz ghz thz microliter ml dl kl fm nm " ++
      "micrometer mm cm km mm-2 cm-2 m-2 km-2 mm-4 cm-3 m-3 km-3 m-s m-s-2 pa kpa mpa gpa rad rad-s rad-s-2 ps " ++
      "ns microsecond ms pv nv microvolt mv kv mv pw nw microwatt mw kw mw kohm mohm a-m- bq cc cd c-kg co- db " ++
      "gy ha hp in k-k- km kt lm ln log lx mb mil mol ph p-m- ppm pr sr sv wb - - 1d 2d 3d 4d 5d 6d 7d 8d 9d " ++
      "10d 11d 12d 13d 14d 15d 16d 17d 18d 19d 20d 21d 22d 23d 24d 25d 26d 27d 28d 29d 30d 31d"),
    (0xa000, 0xa0ff, "it ix i ip iet iex ie iep at ax a ap uox uo uop ot ox o op ex e wu bit bix bi bip biet biex bie biep bat " ++
      "bax ba bap buox buo buop bot box bo bop bex be bep but bux bu bup burx bur byt byx by byp byrx byr pit " ++
      "pix pi pip piex pie piep pat pax pa pap puox puo puop pot pox po pop put pux pu pup purx pur pyt pyx py " ++
      "pyp pyrx pyr bbit bbix bbi bbip bbiet bbiex bbie bbiep bbat bbax bba bbap bbuox bbuo bbuop bbot bbox bbo " ++
      "bbop bbex bbe bbep bbut bbux bbu bbup bburx bbur bbyt bbyx bby bbyp nbit nbix nbi nbip nbiex nbie nbiep " ++
      "nbat nbax nba nbap nbot nbox nbo nbop nbut nbux nbu nbup nburx nbur nbyt nbyx nby nbyp nbyrx nbyr hmit " ++
      "hmix hmi hmip hmiex hmie hmiep hmat hmax hma hmap hmuox hmuo hmuop hmot hmox hmo hmop hmut hmux hmu hmup " ++
      "hmurx hmur hmyx hmy hmyp hmyrx hmyr mit mix mi mip miex mie miep mat max ma map muot muox muo muop mot " ++
      "mox mo mop mex me mut mux mu mup murx mur myt myx my myp fit fix fi fip fat fax fa fap fox fo fop fut " ++
      "fux fu fup furx fur fyt fyx fy fyp vit vix vi vip viet viex vie viep vat vax va vap vot vox vo vop vex " ++
      "vep vut vux vu vup vurx vur vyt vyx vy vyp vyrx vyr"),
    (0xa100, 0xa1ff, "dit dix di dip diex die diep dat dax da dap duox duo dot dox do dop dex de dep dut dux du dup durx dur " ++
      "tit tix ti tip tiex tie tiep tat tax ta tap tuot tuox tuo tuop tot tox to top tex te tep tut tux tu tup " ++
      "turx tur ddit ddix ddi ddip ddiex ddie ddiep ddat ddax dda ddap dduox dduo dduop ddot ddox ddo ddop ddex " ++
      "dde ddep ddut ddux ddu ddup ddurx ddur ndit ndix ndi ndip ndiex ndie ndat ndax nda ndap ndot ndox ndo " ++
      "ndop ndex nde ndep ndut ndux ndu ndup ndurx ndur hnit hnix hni hnip hniet hniex hnie hniep hnat hnax hna " ++
      "hnap hnuox hnuo hnot hnox hnop hnex hne hnep hnut nit nix ni nip niex nie niep nax na nap nuox nuo nuop " ++
      "not nox no nop nex ne nep nut nux nu nup nurx nur hlit hlix hli hlip hliex hlie hliep hlat hlax hla hlap " ++
      "hluox hluo hluop hlox hlo hlop hlex hle hlep hlut hlux hlu hlup hlurx hlur hlyt hlyx hly hlyp hlyrx hlyr " ++
      "lit lix li lip liet liex lie liep lat lax la lap luot luox luo luop lot lox lo lop lex le lep lut lux lu " ++
      "lup lurx lur lyt lyx ly lyp lyrx lyr git gix gi gip giet giex gie giep gat gax ga gap guot guox guo guop " ++
      "got gox go gop get gex ge gep gut gux gu gup gurx gur kit kix ki kip kiex kie kiep kat"),
    (0xa200, 0xa2ff, "kax ka kap kuox kuo kuop kot kox ko kop ket kex ke kep kut kux ku kup kurx kur ggit ggix ggi ggiex ggie " ++
      "ggiep ggat ggax gga ggap gguot gguox gguo gguop ggot ggox ggo ggop gget ggex gge ggep ggut ggux ggu ggup " ++
      "ggurx ggur mgiex mgie mgat mgax mga mgap mguox mguo mguop mgot mgox mgo mgop mgex mge mgep mgut mgux mgu " ++
      "mgup mgurx mgur hxit hxix hxi hxip hxiet hxiex hxie hxiep hxat hxax hxa hxap hxuot hxuox hxuo hxuop hxot " ++
      "hxox hxo hxop hxex hxe hxep ngiex ngie ngiep ngat ngax nga ngap nguot nguox nguo ngot ngox ngo ngop ngex " ++
      "nge ngep hit hiex hie hat hax ha hap huot huox huo huop hot hox ho hop hex he hep wat wax wa wap wuox " ++
      "wuo wuop wox wo wop wex we wep zit zix zi zip ziex zie ziep zat zax za zap zuox zuo zuop zot zox zo zop " ++
      "zex ze zep zut zux zu zup zurx zur zyt zyx zy zyp zyrx zyr cit cix ci cip ciet ciex cie ciep cat cax ca " ++
      "cap cuox cuo cuop cot cox co cop cex ce cep cut cux cu cup curx cur cyt cyx cy cyp cyrx cyr zzit zzix " ++
      "zzi zzip zziet zziex zzie zziep zzat zzax zza zzap zzox zzo zzop zzex zze zzep zzux zzu zzup zzurx zzur " ++
      "zzyt zzyx zzy zzyp zzyrx zzyr nzit nzix nzi nzip nziex nzie nziep nzat nzax nza nzap nzuox nzuo nzox " ++
      "nzop nzex nze nzux nzu"),
    (0xa300, 0xa3ff, "nzup nzurx nzur nzyt nzyx nzy nzyp nzyrx nzyr sit six si sip siex sie siep sat sax sa sap suox suo suop " ++
      "sot sox so sop sex se sep sut sux su sup surx sur syt syx sy syp syrx syr ssit ssix ssi ssip ssiex ssie " ++
      "ssiep ssat ssax ssa ssap ssot ssox sso ssop ssex sse ssep ssut ssux ssu ssup ssyt ssyx ssy ssyp ssyrx " ++
      "ssyr zhat zhax zha zhap zhuox zhuo zhuop zhot zhox zho zhop zhet zhex zhe zhep zhut zhux zhu zhup zhurx " ++
      "zhur zhyt zhyx zhy zhyp zhyrx zhyr chat chax cha chap chuot chuox chuo chuop chot chox cho chop chet " ++
      "chex che chep chux chu chup churx chur chyt chyx chy chyp chyrx chyr rrax rra rruox rruo rrot rrox rro " ++
      "rrop rret rrex rre rrep rrut rrux rru rrup rrurx rrur rryt rryx rry rryp rryrx rryr nrat nrax nra nrap " ++
      "nrox nro nrop nret nrex nre nrep nrut nrux nru nrup nrurx nrur nryt nryx nry nryp nryrx nryr shat shax " ++
      "sha shap shuox shuo shuop shot shox sho shop shet shex she shep shut shux shu shup shurx shur shyt shyx " ++
      "shy shyp shyrx shyr rat rax ra rap ruox ruo ruop rot rox ro rop rex re rep rut rux ru rup rurx rur ryt " ++
      "ryx ry ryp ryrx ryr jit jix ji jip jiet jiex jie jiep juot juox juo juop jot jox jo jop jut jux ju jup " ++
      "jurx jur jyt jyx jy jyp jyrx jyr qit qix qi qip"),
    (0xa400, 0xa4c6, "qiet qiex qie qiep quot quox quo quop qot qox qo qop qut qux qu qup qurx qur qyt qyx qy qyp qyrx qyr " ++
      "jjit jjix jji jjip jjiet jjiex jjie jjiep jjuox jjuo jjuop jjot jjox jjo jjop jjut jjux jju jjup jjurx " ++
      "jjur jjyt jjyx jjy jjyp njit njix nji njip njiet njiex njie njiep njuox njuo njot njox njo njop njux nju " ++
      "njup njurx njur njyt njyx njy njyp njyrx njyr nyit nyix nyi nyip nyiet nyiex nyie nyiep nyuox nyuo nyuop " ++
      "nyot nyox nyo nyop nyut nyux nyu nyup xit xix xi xip xiet xiex xie xiep xuox xuo xot xox xo xop xyt xyx " ++
      "xy xyp xyrx xyr yit yix yi yip yiet yiex yie yiep yuot yuox yuo yuop yot yox yo yop yut yux yu yup yurx " ++
      "yur yyt yyx yy yyp yyrx yyr - - - qot li kit nyip cyp ssi ggop gep mi hxit lyr bbut mop yo put hxuo tat " ++
      "ga - - ddur bur gguo nyop tu op jjut zot pyt hmo yit vur shy vep za jo - jjy got jjie wo du shur lie cy " ++
      "cuop cip hxop shat - shop che zziet - ke"),
    (0xf900, 0xf9ff, "kay- kayng- ke- ko- kol- koc- kwi- kwi- kyun- kul- kum- na- na- na- la- na- na- na- na- na- nak- nak- " ++
      "nak- nak- nak- nak- nak- nan- nan- nan- nan- nan- nan- nam- nam- nam- nam- nap- nap- nap- nang- nang- " ++
      "nang- nang- nang- nay- nayng- no- no- no- no- no- no- no- no- no- no- no- no- nok- nok- nok- nok- nok- " ++
      "nok- non- nong- nong- nong- nong- noy- noy- noy- noy- nwu- nwu- nwu- nwu- nwu- nwu- nwu- nwu- nuk- nuk- " ++
      "num- nung- nung- nung- nung- nung- twu- la- lak- lak- lan- lyeng- lo- lyul- li- pey- pen- pyen- pwu- " ++
      "pwul- pi- sak- sak- sam- sayk- sayng- sep- sey- sway- sin- sim- sip- ya- yak- yak- yang- yang- yang- " ++
      "yang- yang- yang- yang- yang- ye- ye- ye- ye- ye- ye- ye- ye- ye- ye- ye- yek- yek- yek- yek- yen- yen- " ++
      "yen- yen- yen- yen- yen- yen- yen- yen- yen- yen- yen- yen- yel- yel- yel- yel- yel- yel- yem- yem- yem- " ++
      "yem- yem- yep- yeng- yeng- yeng- yeng- yeng- yeng- yeng- yeng- yeng- yeng- yeng- yeng- yeng- yey- yey- " ++
      "yey- yey- o- yo- yo- yo- yo- yo- yo- yo- yo- yo- yo- yong- wun- wen- yu- yu- yu- yu- yu- yu- yu- yu- yu- " ++
      "yu- yuk- yuk- yuk- yun- yun- yun- yun- yul- yul- yul- yul- yung- i- i- i- i- i- i- i- i- i- i- i- i- i- " ++
      "i- ik- ik- in- in- in- in- in- in- in- im- im- im- ip- ip- ip- cang- cek- ci- cip- cha- chek-"),
    (0xfa00, 0xfa2d, "chey- thak- thak- thang- thayk- thong- pho- phok- hang- hang- hyen- hwak- wu- huo- - - zhong- - qing- - " ++
      "- xi- zhu- yi- li- shen- xiang- fu- jing- jing- yu- - hagi- - zhu- - - yi- du- - - - fan- si- guan- he-"),
    (0xfb00, 0xfb06, "ff fi fl ffi ffl st st"),
    (0xfb13, 0xfb4f, "mn me mi vn mkh - - - - - yi . ay - . d h k l m m t - sh s sh s a a . b g d h v z - t y k k l - l - n n " ++
      "- p p - ts ts r sh t vo b k p l"),
    (0xfe20, 0xfe23, ". . . ."),
    (0xfe33, 0xfe34, "_ _"),
    (0xfe49, 0xfe53, ". . . . . . . - - - ."),
    (0xfe67, 0xfe67, "."),
    (0xfe70, 0xfe74, ". . . - ."),
    (0xfeff, 0xfeff, "."),
    (0xff66, 0xffe6, "wo a i u e o ya yu yo tu - a i u e o ka ki ku ke ko sa si su se so ta ti tu te to na ni nu ne no ha hi " ++
      "hu he ho ma mi mu me mo ya yu yo ra ri ru re ro wa n - - . g gg gs n nj nh d dd r lg lm lb ls lt lp rh m " ++
      "b bb bs s ss . j jj c k t p h - - - a ae ya yae eo e - - yeo ye o wa wae oe - - yo u weo we wi yu - - eu " ++
      "yi i - - - -c ps - - - y- w-"),
    (0xffee, 0xffee, "o"),
    (0xfffc, 0xffff, ". . . .")]

/-- Characters that leave nothing: combining marks, ornaments, presentation forms. -/
def silentRuns : List (Nat × Nat) :=
  [(0x80, 0x9f), (0x300, 0x34e), (0x591, 0x5a1), (0x5a3, 0x5af), (0x6df, 0x6e8), (0xf17, 0xf1f), (0xf82,
    0xf8b), (0x20d0, 0x20e3), (0x2100, 0x2129), (0x2133, 0x213a), (0x2400, 0x2424), (0x2440, 0x244a), (0x2600,
    0x2613), (0x2619, 0x2671), (0x270c, 0x2727), (0x2729, 0x274b), (0x2776, 0x2794), (0x2798, 0x27af),
    (0x27b1, 0x27be), (0x3190, 0x319f), (0xfb50, 0xfbb1), (0xfbd3, 0xfd3f), (0xfd50, 0xfd8f), (0xfd92,
    0xfdc7), (0xfdf0, 0xfdfb), (0xfe76, 0xfefc)]

/-- The blocks of 256 characters in which a character without a letter of its own is a sign. Elsewhere such a
character leaves nothing. -/
def knownBlocks : List (Nat × Nat) :=
  [(0x00, 0x07), (0x09, 0x18), (0x1e, 0x28), (0x2e, 0x33), (0x4d, 0xa4), (0xac, 0xd7), (0xf9, 0xff)]

end Text

end Marginalia
