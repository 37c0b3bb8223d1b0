/-!
# Ages of characters, as data

For every version of the Unicode character database up to 16.0 that added characters: its names (in
the loose form), and the code points that it added, as distances and lengths the way
RangeTable.decode reads them. -/

namespace TextTemplate.Unicode

/-- The names of the versions, the earliest first, with the code points that each one added. -/
def ageRows : List (List String × List String) := [
  (["1.1", "v11"], [
    "0+502 4+30 56+89 7+47 1+10 22+70 26+2 18+2 4+1 3+1 5+7 1+1 1+20 1+44 1+7 3+1 1+1 1+1 1+1",
    "1+18 13+12 1+66 1+12 1+41 9+53 2+2 2+2 3+28 2+8 2+2 55+38 2+7 1+39 1+1 38+10 1+9 12+27 5+5",
    "23+1 14+1 3+1 1+26 5+19 13+14 2+72 2+5 1+15 1+30 2+10 519+3 1+53 2+18 2+5 3+25 16+3 1+8",
    "2+2 2+22 1+7 1+1 3+4 2+1 1+7 2+2 2+3 9+1 4+2 1+5 2+21 7+1 2+6 4+2 2+22 1+7 1+2 1+2 1+2 2+1",
    "1+5 4+2 2+3 11+4 1+1 7+15 12+3 1+7 1+1 1+3 1+22 1+7 1+2 1+5 2+10 1+3 1+3 2+1 15+1 5+10",
    "17+3 1+8 2+2 2+22 1+7 1+2 2+4 2+8 3+2 2+3 8+2 4+2 1+3 4+11 17+2 1+6 3+3 1+4 3+2 1+1 1+2",
    "3+2 3+3 3+8 1+3 4+5 3+3 1+4 9+1 15+12 14+3 1+8 1+3 1+23 1+10 1+5 4+7 1+3 1+4 7+2 9+2 4+10",
    "18+2 1+8 1+3 1+23 1+10 1+5 4+7 1+3 1+4 7+2 7+1 1+2 4+10 18+2 1+8 1+3 1+23 1+16 4+6 2+3 1+4",
    "9+1 8+2 4+10 145+58 4+29 37+2 1+1 2+2 1+1 2+1 6+4 1+7 1+3 1+1 1+1 2+2 1+13 1+3 2+5 1+1 1+6",
    "2+10 2+2 450+38 10+39 4+1 4+90 5+68 5+82 3078+155 5+90 6+22 2+6 2+38 2+6 2+8 1+1 1+1 1+1",
    "1+31 2+53 1+15 1+14 2+6 1+19 2+3 1+9 1+47 1+23 35+7 3+27 17+11 37+18 30+57 26+48 13+91",
    "21+242 14+1 1+121 133+37 27+11 21+139 21+150 10+80 16+20 6+86 145+4 1+4 2+28 1+35 1+1 1+4",
    "3+1 1+7 2+7 14+31 3+24 1+14 2113+56 7+1 1+84 4+6 2+94 6+40 4+94 1+16 96+29 3+36 28+28 3+50",
    "15+12 4+47 1+119 4+99 2+31 6657+20902 16474+6702 210+7 12+5 6+25 1+5 1+1 1+2 1+2 1+108",
    "33+365 16+64 2+54 40+12 36+4 12+21 4+10 1+19 1+4 4+3 1+1 1+135 2+1 1+94 2+94 3+6 2+6 2+6",
    "2+3 3+7 1+7 14+3"]),
  (["2.0", "v20"], [
    "1425+17 1+13 20+1 2363+72 1+33 7+27 4+6 1+1 1+21 3+7 1+1 3809+1 527+1 35668+11172 92+2048",
    "73726+2 65534+2 65534+2 65534+2 65534+2 65534+2 65534+2 65534+2 65534+2 65534+2 65534+2",
    "65534+2 65534+2 65534+131074"]),
  (["2.1", "v21"], [
    "8364+1 57167+1"]),
  (["3.0", "v30"], [
    "502+4 30+8 2+18 117+5 49+1 10+5 87+9 19+1 116+1 3+1 1+1 1+1 1+1 30+1 12+1 66+1 12+1 42+2",
    "2+4 92+2 156+1 200+3 98+2 5+1 15+1 42+5 1+14 1+30 3+27 53+49 1489+2 1+18 3+24 1+9 1+1 2+7",
    "3+1 4+6 1+1 1+8 18+3 373+1 43+1 23+3 7+1 1+3 1+15 2+1 48+34 1+5 1+2 1+7 3+4 6+26 422+7",
    "1+63 1+1 1+4 2+7 1+1 1+4 2+39 1+1 1+4 2+31 1+1 1+4 2+7 1+1 1+4 2+7 1+7 1+23 1+31 1+1 1+4",
    "2+7 1+39 1+19 6+28 35+85 12+630 9+29 3+81 143+93 3+10 22+15 1+10 6+88 8+42 1925+1 24+6",
    "95+3 50+2 85+2 72+1 103+9 269+1 121+1 1+30 138+2 457+8 33+1 86+2 398+256 1408+26 1+89",
    "12+214 26+12 60+3 3+1 353+24 584+6582 21066+1165 3+18 2+16 1+12 1+3 1+1 22102+1 1243+3"]),
  (["3.1", "v31"], [
    "1012+2 63962+32 1296+31 1+4 12+27 181+38 2+38 52146+246 10+39 3+180 546+85 1+71 1+2 2+1",
    "2+2 2+4 1+12 1+1 1+4 1+2 1+65 1+4 2+8 1+7 1+28 1+4 1+5 1+1 3+7 1+338 4+290 4+50",
    "10240+42711 20777+542 722403+1 30+96"]),
  (["3.2", "v32"], [
    "544+1 302+1 19+13 104+2 28+1 147+2 57+2 2+2 2+2 49+16 350+2 321+1 2373+2 1543+13 1+7 11+23",
    "9+20 12+13 1+3 1+2 2259+1 6+5 4+1 7+5 13+1 62+2 50+7 82+15 168+12 242+14 124+1 30+52",
    "284+20 151+10 88+8 22+2 90+12 2+10 222+14 90+28 4+16 256+512 1339+3 87+2 8+2 94+1 240+16",
    "81+15 81+15 29154+2 16+1 12+1 3+1 21866+59 913+1 3+16 53+2 44+1 235+2"]),
  (["4.0", "v40"], [
    "545+1 18+3 119+2 63+17 80+8 5+3 151+5 516+4 9+9 64+3 149+2 15+1 45+3 29+3 436+1 184+1 67+1",
    "1+1 136+1 84+3 13+1 67+1 59+1 129+8 193+2 2847+1 18+10 262+29 3+12 4+12 4+1 3+42 2+5",
    "107+32 768+108 743+2 230+1 659+2 302+1 276+2 116+8 14+2 1118+14 1807+2 49+1 43+2 78+4",
    "167+4 99+2 31+1 6592+64 45053+1 73+2 439+12 1+26 1+19 1+2 1+15 2+14 34+123 5+3 4+45 3+9",
    "576+30 1+1 134+2 38+80 2+10 854+6 2+1 1+44 1+2 3+1 2+1 51904+87 362+1 797758+240"]),
  (["4.1", "v41"], [
    "567+11 278+5 159+4 246+2 170+1 34+3 67+1 18+1 58+6 241+30 527+1 80+1 487+1 47+1 1001+2",
    "295+2 1+1 266+1 63+1 63+1 39+1 31+1 31+1 31+1 15+1 39+1 23+2 31+26 1510+42 6+26 6+10 4+2",
    "32+28 2+2 844+88 657+2 1+7 49+5 29+4 53+1 80+1 15+1 644+11 572+1 101+2 18+11 5+16 270+7",
    "839+6 236+47 1+47 33+107 14+45 10+54 9+1 16+23 9+7 1+7 1+7 1+7 1+7 1+7 1+7 1+7 33+24 4+2",
    "930+16 174+1 27943+22 1860+23 233+44 21060+106 822+10 806+75 533+36 4+14 1578+4 1+2 5+8",
    "1+3 1+27 4+3 4+9 8+9 51111+70 1118+2"]),
  (["5.0", "v50"], [
    "578+14 299+3 337+1 42+6 16+4 166+1 517+59 384+2 1+2 866+2 13+2 3597+76 4+45 583+7 51+2",
    "748+4 93+2 53+1 599+12 714+1 276+4 841+7 5+4 316+13 7+4 31391+4 5+2 286+56 24712+26 5+1",
    "5856+879 145+99 13+4 44780+18 1112+2"]),
  (["5.1", "v51"], [
    "880+4 2+2 87+1 183+1 140+16 226+5 11+5 32+5 302+18 497+2 222+1 35+1 206+1 29+2 108+1 108+1",
    "26+2 8+2 20+8 189+1 6+1 29+2 12+6 3+7 491+2 97+1 3+3 77+1 5+1 2+1 7+3 4+6 26+64 4+2 2058+1",
    "725+43 3+12 70+56 3+15 3+51 331+28 181+4 90+6 356+1 139+1 94+1 53+4 1300+1 21+10 3+4 264+1",
    "31+4 811+5 4+41 3+5 280+3 1+3 4+6 354+32 24+4 2+19 764+1 162+20 28120+8 1340+300 20+32",
    "2+18 8+28 131+5 2+107 110+5 128+69 9+12 38+84 11+1 160+55 9+14 2+10 2+4 21444+3 873+12",
    "52+46 130+29 3+49 1615+26 5+1 51177+1 7894+44 4+100"]),
  (["5.2", "v52"], [
    "1316+2 730+46 2+15 193+1 77+1 6+1 35+2 128+1 1497+4 193+4 188+5 68+5 82+6 512+1 630+9",
    "560+70 180+2 46+1 69+63 1+29 2+11 6+10 6+14 546+35 266+1 696+3 151+3 54+1 606+1 693+2 29+3",
    "4+10 1+19 1+1 4+24 87+1 1021+5 278+1 13+2 107+7 319+1 1042+12 28020+8 1284+48 416+88",
    "312+10 166+28 100+29 3+78 1+11 4+2 128+28 4+67 24+5 224+46 2+10 11190+23 4+49 8815+3",
    "3538+22 1+9 186+2 324+32 128+54 3+29 2+27 5+8 128+73 535+31 513+66 7998+1071 48337+11 5+31",
    "2+1 11+1 1+1 2+1 3+1 3+5 8+1 7+1 25+1 1+2 2+1 10+4 2+1 111+1 15+34 14+9 46263+4149"]),
  (["6.0", "v60"], [
    "1318+2 248+1 62+1 480+28 2+1 219+2 19+1 6+2 27+5 506+6 433+1 16+1 19+1 573+4 73+2 898+2",
    "2145+52 8+4 508+1 664+8 28+1 815+11 730+1 19+1 1+4 29+1 4+2 28+1 35+1 1+1 4+3 9+2 52+3",
    "24+1 14+1 14+2 1440+1 14+1 1080+3 29861+2 299+2 1+2 14+10 80+1 774+6 2+6 2+6 9+7 1+7",
    "20611+16 5182+78 4+30 22416+569 17863+2 16542+15 2+14 2+15 1+15 80+1 1+11 1+1 1+2 1+3 1+3",
    "5+8 1+7 1+10 6+9 1+1 2+2 1+10 4+2 1+10 75+26 1+2 47+9 21+2 174+33 15+6 1+70 3+20 12+37 1+5",
    "21+17 15+63 1+1 1+182 1+4 3+62 18+24 147+5 1+16 1+3 1+1 1+1 1+1 1+3 1+6 2+4 1+1 2+4 1+12",
    "4+11 48+70 58+116 49100+222"]),
  (["6.1", "v61"], [
    "1423+1 116+1 667+1 1+11 55+27 497+1 1005+2 487+1 5+1 47+3 2731+3 12+6 256+8 43+4 2772+1",
    "1+1 1316+2 51+1 5+1 56+2 202+10 29072+1 1703+8 35+1 242+2 22+1 77+2 742+23 20279+2 3920+56",
    "6+2 1808+25 7+10 6+53 1+14 60+73 7+10 1190+56 8+10 22582+69 11+47 16+17 32352+4 1+27 1+2",
    "1+1 2+1 1+10 1+4 1+1 1+1 6+1 4+1 1+1 1+1 1+3 1+2 1+1 2+1 1+1 1+1 1+1 1+1 1+2 1+1 2+4 1+7",
    "1+4 1+4 1+1 1+10 1+17 5+3 1+5 1+17 52+2 632+2 980+4 188+1 16+1 3+1 1+1 1+1 1+1 3+1 6+2 4+1",
    "1+2 4+1"]),
  (["6.2", "v62"], [
    "8378+1"]),
  (["6.3", "v63"], [
    "1564+1 6729+4"]),
  (["7.0", "v70"], [
    "895+1 424+8 93+2 118+1 667+1 11+6 76+1 120+1 7+1 639+1 51+1 76+1 127+1 228+10 2305+8 548+2",
    "401+15 569+2 237+15 709+3 822+7 773+1 1100+3 10+26 2+32 2+34 3+12 1+8 618+7 30805+6 246+12",
    "11+3 2+2 69+1 488+31 125+4 176+48 4+2 21185+7 861+2 19+1 319+28 35+1 48+43 389+40 8+52",
    "11+1 144+311 9+22 10+8 248+63 8+9 464+32 32+39 4+12 137+18 7+4 12+7 1231+1 208+39 86+1",
    "12+1 6+20 11+18 1+43 114+59 5+10 7+3 1+8 2+2 2+22 1+7 1+2 1+5 2+9 2+2 2+3 9+1 5+7 2+7 3+5",
    "267+72 8+10 166+54 2+18 54+69 11+10 582+83 12+1 448+57 2166+42 202+12 5+1 17867+31 1+10",
    "4+2 96+30 2+6 10+70 10+10 1+7 1+21 5+19 20592+107 5+13 3+9 7+10 2+8 11100+197 2+16 2024+1",
    "32+22 21+2 532+12 9+1 70+1 22+12 37+1 5+4 5+12 17+7 71+1 1+1 182+1 4+2 63+2 4+7 29+18 1+41",
    "1+86 70+2 13+48 70+10 16+13 3+4 140+85 43+12 4+56 8+10 6+40 8+30"]),
  (["8.0", "v80"], [
    "2227+2 46+1 533+1 352+1 260+1 1685+1 2+6 3264+1 203+2 2656+4 29661+9 1736+1 240+1 34+6",
    "324+2 610+4 12+80 21102+2 2736+19 1+2 5+5 188+2 2+16 2+46 640+51 13+51 7+6 1225+4 14+5",
    "160+7 1+1 1+4 1+15 1+11 86+1 79+1 633+20 290+26 3+15 4+16 3161+1 230+196 7868+583 35735+11",
    "1559+652 15+5 1+15 6269+3 78+2 79+5 36+8 255+1 75+5 243+2 139+1 575+9 103+5 59+1",
    "48735+5762"]),
  (["9.0", "v90"], [
    "2230+8 22+15 925+1 206+1 4+3 1+7 23+3 3847+9 370+1 1535+4 2628+2 31081+1 278+1 22727+2",
    "801+36 4+36 3394+1 449+90 1+1 1+1 514+13 1427+9 1+45 1+14 10+29 3+32 2+22 1+14 21289+1",
    "31+6125 19+755 21773+7 1+17 2+7 1+2 1+5 2261+75 5+10 4+2 2107+18 142+1 830+1 41+1 300+2",
    "33+3 546+6 1+8 8+1 2+12 1+12 4+15 38+13"]),
  (["10.0", "v100"], [
    "2144+11 401+2 252+6 512+1 58+2 4026+1 254+4 709+1 831+1 2002+1 626+5 740+1 28327+21",
    "25410+3 5840+72 8+52 2+23 1+5 605+7 1+2 1+44 3+1 1+2 1+9 8+10 21127+1 16416+285 81+396",
    "16228+6 1133+2 34+2 519+12 19+1 8+8 1+2 25+1 18+13 38+6 56+23 54473+7473"]),
  (["11.0", "v110"], [
    "1376+1 39+1 102+1 525+3 211+1 298+1 119+1 397+1 127+1 3059+1 1047+43 2+3 3834+3 22+25 4+15",
    "587+5 736+1 28347+5 1983+1 8+2 324+2 24884+2 18+1 695+40 8+10 454+40 8+42 371+1 118+3",
    "500+1 290+1 699+1 229+60 609+1 706+6 1+2 1+37 1+2 1+6 7+10 310+25 20295+91 6482+5 19182+20",
    "126+7 6392+68 1146+1 1481+1 219+4 372+3 28+5 2+4 3+1 1+4 24+11 13+10 7+2 36+25 96+14"]),
  (["12.0", "v120"], [
    "3191+1 526+1 2+1 2+1 1+6 4+1 7+1 7+2 2+1 13+1 3647+1 3790+1 53+1 591+1 31082+6 2+5 927+2",
    "25720+23 1128+1 600+1 743+8 2+46 2+11 159+2 1338+50 13+1 5168+9 15116+6 4+1 47+9 90+2",
    "6158+6 10584+3 17+4 12184+45 3+14 2+10 4+2 368+58 5+1 1611+1 949+61 1070+1 1384+1 36+1",
    "229+12 289+3 47+1 49+1 9+1 41+6 3+2 10+6 3+8 2+3 48+84 28+4 4+3 5+3 13+6"]),
  (["12.1", "v121"], [
    "13055+1"]),
  (["13.0", "v130"], [
    "2238+10 653+1 430+1 124+1 3389+2 4310+1 696+3 872+5 7158+10 21040+13 1994+4 42+2 53+1",
    "827+4 22064+1 3299+42 1+3 2+2 254+28 379+1 134+2 650+1 5+2 1182+7 2+1 2+8 1+2 1+30 1+2",
    "2+12 9+10 1622+1 20531+1 11+2 6913+483 42+9 25604+3 93+3 61+1 1320+2 35+2 435+2 90+1 101+1",
    "4+2 42+2 6+3 29+1 168+1 14+4 15+19 7+7 9+3 13+7 41+147 1+55 37+10 43741+7 22818+4939"]),
  (["14.0", "v140"], [
    "1565+1 594+31 1+2 6+8 21+1 18+11 873+1 32+1 127+1 2607+1 7+1 9+1 239+1 689+14 125+1 48+2",
    "635+1 709+1 2926+1 47+1 499+11 29087+3 1984+2 14+2 1+1 1+5 24+3 21453+1 381+16 127+1 46+2",
    "1904+11 1+15 1+7 1+2 1+11 1+15 1+7 1+2 451+6 1+42 1+9 1973+26 230+6 76+1 1526+1 134+7",
    "873+16 5328+99 14973+79 1+10 17702+4 1+7 1+2 288+4 7645+46 2+23 9+116 549+2 3349+31 881+31",
    "1329+7 1+4 1+2 1+15 3806+3 272+1 392+1 82+1 174+2 44+4 10+4 8+3 17+3 6+8 8+7 44007+2",
    "4181+4"]),
  (["15.0", "v150"], [
    "3315+1 474+1 65582+3 831+3 2238+10 1014+17 1+41 3+28 5333+1 9+29 31964+1 34+1 8554+20",
    "3153+6 261+62 33+1 1088+42 4578+1 151+3 4+5 89+1 667+3 15+2 36+3 11+3 1+1 14+2 10+2 12+1",
    "14+2 48192+1 23574+4192"]),
  (["15.1", "v151"], [
    "12284+4 495+1 178688+622"]),
  (["16.0", "v160"], [
    "2199+1 4790+2 47+1 265+2 1948+3 3514+2 30181+3 12+3 24035+52 1868+38 3+29 8+2 306+3 55+1",
    "1155+10 1+1 2+1 1+38 1+10 1+1 2+1 1+4 1+10 1+2 8+2 749+20 1244+34 14+10 864+1 5381+3995",
    "7429+58 3078+58 8069+1 16128+250 6+436 5916+43 4+1 4786+10 4+2 455+1 5+1 46+1 7+1 21+1 2+1",
    "9+1 225+37"])]

end TextTemplate.Unicode
