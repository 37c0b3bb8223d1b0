/-!
# Binary properties, as data

The binary properties of version 16.0 of the Unicode character database: the names of each (in the
loose form, lower case without separators) and its code points, as distances and lengths the way
RangeTable.decode reads them. The last list holds the loose names of the properties that are not
binary, several in a line. -/

namespace TextTemplate.Unicode

def alphabeticRanges : List String := [
  "65+26 6+26 47+1 10+1 4+1 5+23 1+31 1+458 4+12 14+5 7+1 1+1 86+1 29+18 1+2 2+4 1+1 6+1 1+3",
  "1+1 1+20 1+83 1+139 8+166 1+38 2+1 6+41 39+14 1+1 1+2 1+2 1+1 8+27 4+4 29+11 5+56 1+7 14+102",
  "1+8 4+8 4+3 10+3 2+1 16+48 13+101 24+33 9+2 4+1 5+24 2+19 19+25 7+11 5+24 1+6 8+1 8+42 10+12",
  "3+7 6+76 1+16 1+3 4+15 13+19 1+8 2+2 2+22 1+7 1+1 3+4 3+8 2+2 2+2 1+1 8+1 4+2 1+5 12+2 10+1",
  "4+3 1+6 4+2 2+22 1+7 1+2 1+2 1+2 4+5 4+2 2+2 4+1 7+4 1+1 17+6 11+3 1+9 1+3 1+22 1+7 1+2 1+5",
  "3+9 1+3 1+2 3+1 15+4 21+4 4+3 1+8 2+2 2+22 1+7 1+2 1+5 3+8 2+2 2+2 9+2 4+2 1+5 13+1 16+2 1+6",
  "3+3 1+4 3+2 1+1 1+2 3+2 3+3 3+12 4+5 3+3 1+3 3+1 6+1 40+13 1+3 1+23 1+16 3+8 1+3 1+3 8+2 1+3",
  "2+1 2+4 28+4 1+8 1+3 1+23 1+10 1+5 3+8 1+3 1+3 8+2 6+2 1+4 13+3 12+13 1+3 1+41 2+8 1+3 1+3",
  "1+1 5+4 7+5 22+6 1+3 1+18 3+24 1+9 1+1 2+7 8+6 1+1 1+8 18+2 13+58 5+7 6+1 51+2 1+1 1+5 1+24",
  "1+1 1+19 1+3 2+5 1+1 6+1 14+4 32+1 63+8 1+36 4+19 4+16 1+36 67+55 1+1 2+5 16+64 10+4 2+38",
  "1+1 5+1 2+43 1+333 1+4 2+7 1+1 1+4 2+41 1+4 2+33 1+4 2+7 1+1 1+4 2+15 1+57 1+4 2+67 37+16",
  "16+86 2+6 3+620 2+17 1+26 5+75 3+11 7+20 11+21 12+20 12+13 1+3 1+2 12+52 2+19 14+1 4+1 67+89",
  "7+43 5+70 10+31 1+12 4+9 23+30 2+5 11+44 4+26 54+28 4+63 2+20 50+1 23+2 11+3 49+52 1+15 1+8",
  "51+42 2+4 10+44 1+11 14+55 22+3 10+36 2+11 5+43 2+3 41+4 1+6 1+2 3+1 5+192 19+34 11+278 2+6",
  "2+38 2+6 2+8 1+1 1+1 1+1 1+31 2+53 1+7 1+1 3+3 1+7 3+4 2+6 4+13 5+3 1+7 116+1 13+1 16+13",
  "101+1 4+1 2+10 1+1 3+5 6+1 1+1 1+1 1+4 1+11 2+4 5+5 4+1 17+41 813+52 1814+229 6+4 3+2 12+38",
  "1+1 5+1 2+56 7+1 16+23 9+7 1+7 1+7 1+7 1+7 1+7 1+7 1+7 1+32 47+1 469+3 25+9 7+5 2+5 4+86 6+3",
  "1+90 1+4 5+43 1+94 17+32 48+16 512+6592 64+22157 67+46 2+269 3+16 10+2 20+47 5+8 3+113 39+9",
  "2+103 2+67 2+2 1+1 1+8 21+20 1+33 24+52 12+68 1+1 44+6 3+1 1+3 10+33 5+35 13+29 3+51 1+12",
  "15+1 16+16 10+5 1+55 9+14 18+23 3+69 1+1 1+1 24+3 2+16 2+4 11+6 2+6 2+6 9+7 1+7 1+43 1+14",
  "6+123 21+11172 12+23 4+49 8452+366 2+106 38+7 12+5 5+12 1+13 1+5 1+1 1+2 1+2 1+108 33+363",
  "18+64 2+54 40+12 116+5 1+135 36+26 6+26 11+89 3+6 2+6 2+6 2+3 35+12 1+26 1+19 1+2 1+15 2+14",
  "34+123 69+53 267+29 3+49 47+32 13+30 5+43 5+30 2+36 4+8 1+5 42+158 18+36 4+36 4+40 8+52",
  "12+11 1+15 1+7 1+2 1+11 1+15 1+7 1+2 3+52 12+311 9+22 10+8 24+6 1+42 1+9 69+6 2+1 1+44 1+2",
  "3+1 2+23 10+23 9+31 65+19 1+2 10+22 10+26 70+56 6+2 64+4 1+2 5+8 1+3 1+29 42+29 3+29 35+8",
  "1+28 27+54 10+22 10+19 13+18 110+73 55+51 13+51 13+40 34+28 3+1 5+23 250+42 1+2 3+2 16+3",
  "55+1 3+29 10+1 8+22 42+18 46+21 27+23 9+70 43+5 10+57 9+1 13+25 23+51 17+4 8+35 3+1 9+64 1+4",
  "9+2 10+1 1+1 35+18 1+34 2+1 6+4 62+7 1+1 1+4 1+15 1+10 7+57 23+4 1+8 2+2 2+22 1+7 1+2 1+5",
  "3+8 2+2 2+2 3+1 6+1 5+7 28+10 1+1 2+1 1+38 1+10 1+1 2+1 1+4 1+2 3+1 1+1 44+66 1+3 1+4 20+3",
  "30+66 2+2 1+1 184+54 2+7 25+6 34+63 1+1 3+1 59+54 2+1 71+27 2+14 21+7 185+57 103+64 31+8 2+1",
  "2+8 1+2 1+30 1+2 2+2 2+4 93+8 2+46 2+6 1+1 1+2 27+51 2+10 17+72 5+1 18+73 199+33 31+9 1+45",
  "1+7 1+1 49+30 2+22 1+14 73+7 1+2 1+44 3+1 1+2 1+3 1+1 2+2 24+6 1+2 1+37 1+2 1+4 1+1 327+23",
  "9+17 1+41 3+3 111+1 79+922 102+111 17+196 2636+97 15+1072 17+6 25+3995 5+583 6841+47",
  "1745+569 7+31 17+79 17+30 18+48 16+4 31+21 5+19 432+45 211+64 128+75 4+57 7+17 64+2 1+1 12+2",
  "14+6136 8+1238 41+10 8935+4 1+7 1+2 1+291 15+1 29+3 2+1 14+4 8+396 2308+107 5+13 3+9 7+10",
  "4+1 5985+85 1+71 1+2 2+1 2+2 2+4 1+12 1+1 1+7 1+65 1+4 2+8 1+7 1+28 1+4 1+5 1+1 3+7 1+340",
  "2+25 1+25 1+31 1+25 1+31 1+25 1+31 1+25 1+31 1+25 1+8 1844+31 6+6 213+7 1+17 2+7 1+2 1+5",
  "5+62 33+1 112+45 10+7 16+1 321+30 18+44 484+28 228+30 2+1 495+7 1+4 1+2 1+15 1+197 59+68 3+1",
  "3+1 1204+4 1+27 1+2 1+1 2+1 1+10 1+4 1+1 1+1 6+1 4+1 1+1 1+1 1+3 1+2 1+1 2+1 1+1 1+1 1+1 1+1",
  "1+2 1+1 2+4 1+7 1+4 1+4 1+1 1+10 1+17 5+3 1+5 1+17 628+26 6+26 6+26 3702+42720 32+4154 6+222",
  "2+5762 14+7473 15+622 2466+542 1506+4939 5+4192"]

/-- The names and the ranges of every binary property. -/
def binaryRows : List (List String × List String) := [
  (["ahex", "asciihexdigit"], [
    "48+10 7+6 26+6"]),
  (["alpha", "alphabetic"], alphabeticRanges),
  (["bidic", "bidicontrol"], [
    "1564+1 6641+2 26+5 55+4"]),
  (["bidim", "bidimirrored"], [
    "40+2 18+1 1+1 28+1 1+1 29+1 1+1 45+1 15+1 3710+4 1885+2 2460+2 10+2 54+2 14+2 177+1 192+4",
    "3+6 3+1 3+2 3+4 1+4 1+1 1+1 4+9 5+1 1+18 5+4 9+2 1+1 1+8 1+32 2+4 5+1 9+2 2+19 5+2 9+5 2+2",
    "4+24 2+16 8+4 20+2 7+2 1085+14 74+1 2+4 1+2 1+3 5+4 5+3 3+14 403+22 2+6 1+14 8+1 7+6 3+1",
    "4+5 1+2 2+5 4+1 1+3 2+2 10+6 2+2 12+19 1+4 2+1 1+1 2+1 1+4 5+2 6+3 24+2 11+2 4+4 1+2 2+2",
    "4+43 2+8 1+40 5+1 1+1 3+5 5+3 4+1 3+5 1+1 256+1 515+4 3+2 1+2 14+2 2+10 43+8 427+10 2+8",
    "52797+6 5+2 162+2 18+1 1+1 28+1 1+1 29+1 1+1 1+2 1+2 55159+1 57+1 57+1 57+1 57+1"]),
  (["ci", "caseignorable"], [
    "39+1 6+1 11+1 35+1 1+1 71+1 4+1 1+1 4+1 2+2 503+192 4+2 4+1 9+2 1+1 251+7 207+1 5+1 49+45",
    "1+1 1+2 1+2 1+1 44+1 11+6 10+11 1+1 35+1 10+21 16+1 101+8 1+10 1+4 33+1 1+1 30+27 91+11",
    "58+11 4+1 2+1 24+24 43+3 44+1 7+2 5+9 41+58 55+1 1+1 4+8 4+1 3+7 10+2 13+1 15+1 58+1 4+4",
    "8+1 20+2 26+1 2+2 57+1 4+2 4+2 2+3 3+1 30+2 3+1 11+2 57+1 4+5 1+2 4+1 20+2 22+6 1+1 58+1",
    "2+1 1+4 8+1 7+2 11+2 30+1 61+1 12+1 50+1 3+1 55+1 1+3 5+3 1+4 7+2 11+2 29+1 58+1 2+1 6+1",
    "5+2 20+2 28+2 57+2 4+4 8+1 20+2 29+1 72+1 7+3 1+1 90+1 2+7 11+9 98+1 2+9 9+1 1+7 73+2 27+1",
    "1+1 1+1 55+14 1+5 1+2 5+11 1+36 9+1 102+4 1+6 1+2 2+2 25+2 4+3 16+4 13+1 2+2 6+1 15+1 94+1",
    "608+3 946+3 29+2 30+2 30+2 64+2 1+7 8+1 2+11 3+1 5+1 45+5 51+1 65+2 34+1 118+3 4+2 9+1 6+3",
    "219+2 2+1 58+1 1+7 1+1 1+1 2+8 6+10 2+1 39+1 8+31 49+4 48+1 1+5 1+1 5+1 40+9 12+2 32+4 2+2",
    "1+3 56+1 1+2 3+1 1+3 58+8 2+2 64+6 82+3 1+13 1+7 4+1 6+1 3+2 50+63 13+1 34+101 445+1 1+3",
    "11+3 13+3 13+3 13+2 12+5 8+2 10+1 2+1 2+5 49+5 1+10 1+1 13+1 16+13 51+33 2955+2 113+3",
    "125+1 15+1 96+32 47+1 469+1 36+4 3+5 5+1 93+6 93+3 28438+1 1250+6 270+1 98+4 1+10 1+1 28+4",
    "80+2 14+34 78+1 23+3 103+3 3+2 8+1 3+1 4+1 25+2 5+1 151+2 26+18 13+1 38+8 25+11 46+3 48+1",
    "2+4 2+2 17+1 21+2 66+6 2+2 2+2 12+1 8+1 35+1 11+1 51+1 1+3 2+2 5+2 1+1 27+1 14+2 5+2 1+1",
    "100+5 9+3 121+1 2+1 4+1 20272+1 147+17 573+16 3+1 12+16 34+1 2+1 169+1 7+1 6+1 11+1 35+1",
    "1+1 47+1 45+2 67+1 21+3 513+1 226+1 149+5 1029+6 1+42 1+9 582+3 1+2 5+4 40+3 4+1 165+2",
    "573+4 38+1 26+5 1+1 315+2 79+4 70+11 49+4 123+1 54+15 41+1 2+2 10+3 49+4 2+2 2+1 4+1 10+1",
    "50+3 36+5 1+8 62+1 12+2 52+9 10+4 2+1 95+3 2+1 1+2 6+1 2+1 157+1 3+8 21+2 57+2 3+1 37+7",
    "3+5 70+6 13+1 1+1 1+1 14+2 85+8 2+3 1+1 23+1 84+6 1+1 4+2 1+2 238+4 6+2 1+2 27+2 85+8 2+1",
    "1+2 106+1 1+1 2+6 1+1 101+1 1+1 2+4 1+5 259+9 1+2 256+2 1+1 4+1 144+4 2+2 4+1 32+10 40+6",
    "2+4 8+1 9+6 2+3 46+13 1+2 406+7 1+6 1+1 82+22 2+7 1+2 1+2 122+6 3+1 1+2 1+7 1+1 72+2 3+1",
    "1+1 347+2 11+2 52+5 5+1 1+1 23+1 5333+17 6+15 11464+12 3+3 2496+5 59+7 9+4 508+3 40+2",
    "482+1 63+17 64+2 1+2 16395+4 1+7 1+2 3230+2 1+4 4700+46 2+23 544+3 9+16 2+7 30+4 148+3",
    "1979+55 4+50 8+1 14+1 22+5 1+15 1360+7 1+17 2+7 1+2 1+5 5+62 33+1 160+14 368+1 61+4 507+5",
    "254+2 736+7 109+8 2735+5 789505+1 30+96 128+240"]),
  (["cased"], [
    "65+26 6+26 47+1 10+1 4+1 5+23 1+31 1+195 1+4 4+208 1+36 7+2 30+5 96+1 42+4 2+2 2+4 1+1 6+1",
    "1+3 1+1 1+20 1+83 1+139 8+166 1+38 9+41 2839+38 1+1 5+1 2+43 1+4 672+86 2+6 2178+11 5+43",
    "2+3 64+192 64+278 2+6 2+38 2+6 2+8 1+1 1+1 1+1 1+31 2+53 1+7 1+1 3+3 1+7 3+4 2+6 4+13 5+3",
    "1+7 116+1 13+1 16+13 101+1 4+1 2+10 1+1 3+5 6+1 1+1 1+1 1+4 1+6 4+1 2+4 5+5 4+1 17+32 3+2",
    "817+52 1814+229 6+4 3+2 12+38 1+1 5+1 30994+46 18+30 132+102 3+4 1+62 2+2 1+1 1+8 21+5 1+3",
    "821+43 1+14 6+80 20288+7 12+5 1033+26 6+26 1189+80 96+36 4+36 116+11 1+15 1+7 1+2 1+11",
    "1+15 1+7 1+2 451+1 2+3 1+42 1+9 1221+51 13+51 93+22 10+22 2842+64 21856+64 25984+85 1+71",
    "1+2 2+1 2+2 2+4 1+12 1+1 1+7 1+65 1+4 2+8 1+7 1+28 1+4 1+5 1+1 3+7 1+340 2+25 1+25 1+31",
    "1+25 1+31 1+25 1+31 1+25 1+31 1+25 1+8 1844+10 1+20 6+6 261+62 2194+68 2028+26 6+26 6+26"]),
  (["cwcf", "changeswhencasefolded"], [
    "65+26 90+1 10+23 1+8 32+1 1+1 1+1 1+1 1+1 1+1 1+1 1+1 1+1 1+1 1+1 1+1 1+1 1+1 1+1 1+1 1+1",
    "1+1 1+1 1+1 1+1 1+1 1+1 1+1 1+1 1+1 1+1 1+1 2+1 1+1 1+1 1+1 1+1 1+1 1+1 1+1 1+2 1+1 1+1",
    "1+1 1+1 1+1 1+1 1+1 1+1 1+1 1+1 1+1 1+1 1+1 1+1 1+1 1+1 1+1 1+1 1+1 1+1 1+1 1+1 1+2 1+1",
    "1+1 1+1 1+2 1+1 1+2 1+3 2+4 1+2 1+3 3+2 1+2 1+1 1+1 1+2 1+1 2+1 1+2 1+3 1+1 1+2 3+1 7+2",
    "1+2 1+2 1+1 1+1 1+1 1+1 1+1 1+1 1+1 1+1 2+1 1+1 1+1 1+1 1+1 1+1 1+1 1+1 1+1 2+2 1+1 1+3",
    "1+1 1+1 1+1 1+1 1+1 1+1 1+1 1+1 1+1 1+1 1+1 1+1 1+1 1+1 1+1 1+1 1+1 1+1 1+1 1+1 1+1 1+1",
    "1+1 1+1 1+1 1+1 1+1 1+1 1+1 7+2 1+2 2+1 1+4 1+1 1+1 1+1 1+1 246+1 42+1 1+1 3+1 8+1 6+1 1+3",
    "1+1 1+2 1+17 1+9 22+1 12+3 3+2 1+1 1+1 1+1 1+1 1+1 1+1 1+1 1+1 1+1 1+1 1+1 1+1 1+2 2+2 1+1",
    "1+2 2+51 48+1 1+1 1+1 1+1 1+1 1+1 1+1 1+1 1+1 1+1 1+1 1+1 1+1 1+1 1+1 1+1 1+1 9+1 1+1 1+1",
    "1+1 1+1 1+1 1+1 1+1 1+1 1+1 1+1 1+1 1+1 1+1 1+1 1+1 1+1 1+1 1+1 1+1 1+1 1+1 1+1 1+1 1+1",
    "1+1 1+1 1+2 1+1 1+1 1+1 1+1 1+1 1+1 2+1 1+1 1+1 1+1 1+1 1+1 1+1 1+1 1+1 1+1 1+1 1+1 1+1",
    "1+1 1+1 1+1 1+1 1+1 1+1 1+1 1+1 1+1 1+1 1+1 1+1 1+1 1+1 1+1 1+1 1+1 1+1 1+1 1+1 1+1 1+1",
    "1+1 1+1 1+1 1+1 1+1 1+1 1+1 1+1 1+1 1+1 1+1 1+1 1+1 2+38 48+1 2840+38 1+1 5+1 810+6",
    "2178+10 6+43 2+3 320+1 1+1 1+1 1+1 1+1 1+1 1+1 1+1 1+1 1+1 1+1 1+1 1+1 1+1 1+1 1+1 1+1 1+1",
    "1+1 1+1 1+1 1+1 1+1 1+1 1+1 1+1 1+1 1+1 1+1 1+1 1+1 1+1 1+1 1+1 1+1 1+1 1+1 1+1 1+1 1+1",
    "1+1 1+1 1+1 1+1 1+1 1+1 1+1 1+1 1+1 1+1 1+1 1+1 1+1 1+1 1+1 1+1 1+1 1+1 1+1 1+1 1+1 1+1",
    "1+1 1+1 1+1 1+1 1+1 1+1 1+1 1+1 1+1 1+1 1+1 1+1 1+1 5+2 2+1 1+1 1+1 1+1 1+1 1+1 1+1 1+1",
    "1+1 1+1 1+1 1+1 1+1 1+1 1+1 1+1 1+1 1+1 1+1 1+1 1+1 1+1 1+1 1+1 1+1 1+1 1+1 1+1 1+1 1+1",
    "1+1 1+1 1+1 1+1 1+1 1+1 1+1 1+1 1+1 1+1 1+1 1+1 1+1 1+1 1+1 1+1 1+1 1+1 1+1 9+8 8+6 10+8",
    "8+8 8+6 11+1 1+1 1+1 1+1 8+8 16+48 2+3 2+6 5+3 2+6 11+4 12+5 5+3 2+6 297+1 3+2 6+1 45+16",
    "19+1 818+26 1840+48 48+1 1+3 2+1 1+1 1+1 1+4 1+1 2+1 8+3 1+1 1+1 1+1 1+1 1+1 1+1 1+1 1+1",
    "1+1 1+1 1+1 1+1 1+1 1+1 1+1 1+1 1+1 1+1 1+1 1+1 1+1 1+1 1+1 1+1 1+1 1+1 1+1 1+1 1+1 1+1",
    "1+1 1+1 1+1 1+1 1+1 1+1 1+1 1+1 1+1 1+1 1+1 1+1 1+1 1+1 1+1 1+1 1+1 1+1 1+1 8+1 1+1 4+1",
    "31053+1 1+1 1+1 1+1 1+1 1+1 1+1 1+1 1+1 1+1 1+1 1+1 1+1 1+1 1+1 1+1 1+1 1+1 1+1 1+1 1+1",
    "1+1 1+1 19+1 1+1 1+1 1+1 1+1 1+1 1+1 1+1 1+1 1+1 1+1 1+1 1+1 1+1 135+1 1+1 1+1 1+1 1+1 1+1",
    "1+1 3+1 1+1 1+1 1+1 1+1 1+1 1+1 1+1 1+1 1+1 1+1 1+1 1+1 1+1 1+1 1+1 1+1 1+1 1+1 1+1 1+1",
    "1+1 1+1 1+1 1+1 1+1 1+1 1+1 1+1 1+1 1+1 10+1 1+1 1+2 1+1 1+1 1+1 1+1 4+1 1+1 2+1 1+1 3+1",
    "1+1 1+1 1+1 1+1 1+1 1+1 1+1 1+1 1+1 1+5 1+5 1+1 1+1 1+1 1+1 1+1 1+1 1+1 1+4 1+1 1+2 3+1",
    "5+1 1+1 1+1 1+1 24+1 890+80 20288+7 12+5 1033+26 1221+40 136+36 156+11 1+15 1+7 1+2",
    "1770+51 157+22 2874+32 21888+32 31392+34"]),
  (["cwcm", "changeswhencasemapped"], [
    "65+26 6+26 58+1 10+23 1+31 1+64 1+84 1+28 2+14 2+2 1+1 4+93 1+18 6+27 1+2 1+1 1+2 3+2 1+4",
    "1+5 2+1 1+2 2+1 7+1 2+1 1+2 3+6 5+1 10+2 166+1 42+4 2+2 3+3 1+1 6+1 1+3 1+1 1+20 1+47 3+33",
    "1+5 1+133 8+166 1+38 10+39 2840+38 1+1 5+1 2+43 2+3 672+86 2+6 2178+11 5+43 2+3 185+1 3+1",
    "16+1 113+156 2+1 1+118 2+6 2+38 2+6 2+8 1+1 1+1 1+1 1+31 2+53 1+7 1+1 3+3 1+7 3+4 2+6 4+13",
    "5+3 1+7 297+1 3+2 6+1 27+1 17+32 3+2 817+52 1814+113 1+2 1+2 7+102 7+4 3+2 12+38 1+1 5+1",
    "30994+46 18+28 134+14 2+62 9+15 3+3 2+5 1+25 1+30 2+2 4+7 24+2 860+1 28+80 20288+7 12+5",
    "1033+26 6+26 1189+80 96+36 4+36 116+11 1+15 1+7 1+2 1+11 1+15 1+7 1+2 1731+51 13+51 93+22",
    "10+22 2842+64 21856+64 31360+68"]),
  (["cwl", "changeswhenlowercased"], [
    "65+26 101+23 1+7 33+1 1+1 1+1 1+1 1+1 1+1 1+1 1+1 1+1 1+1 1+1 1+1 1+1 1+1 1+1 1+1 1+1 1+1",
    "1+1 1+1 1+1 1+1 1+1 1+1 1+1 1+1 1+1 1+1 2+1 1+1 1+1 1+1 1+1 1+1 1+1 1+1 2+1 1+1 1+1 1+1",
    "1+1 1+1 1+1 1+1 1+1 1+1 1+1 1+1 1+1 1+1 1+1 1+1 1+1 1+1 1+1 1+1 1+1 1+1 1+1 1+2 1+1 1+1",
    "3+2 1+1 1+2 1+3 2+4 1+2 1+3 3+2 1+2 1+1 1+1 1+2 1+1 2+1 1+2 1+3 1+1 1+2 3+1 7+2 1+2 1+2",
    "1+1 1+1 1+1 1+1 1+1 1+1 1+1 1+1 2+1 1+1 1+1 1+1 1+1 1+1 1+1 1+1 1+1 2+2 1+1 1+3 1+1 1+1",
    "1+1 1+1 1+1 1+1 1+1 1+1 1+1 1+1 1+1 1+1 1+1 1+1 1+1 1+1 1+1 1+1 1+1 1+1 1+1 1+1 1+1 1+1",
    "1+1 1+1 1+1 1+1 1+1 7+2 1+2 2+1 1+4 1+1 1+1 1+1 1+1 289+1 1+1 3+1 8+1 6+1 1+3 1+1 1+2 1+17",
    "1+9 35+1 8+1 1+1 1+1 1+1 1+1 1+1 1+1 1+1 1+1 1+1 1+1 1+1 5+1 2+1 1+2 2+51 48+1 1+1 1+1 1+1",
    "1+1 1+1 1+1 1+1 1+1 1+1 1+1 1+1 1+1 1+1 1+1 1+1 1+1 9+1 1+1 1+1 1+1 1+1 1+1 1+1 1+1 1+1",
    "1+1 1+1 1+1 1+1 1+1 1+1 1+1 1+1 1+1 1+1 1+1 1+1 1+1 1+1 1+1 1+1 1+1 1+1 1+2 1+1 1+1 1+1",
    "1+1 1+1 1+1 2+1 1+1 1+1 1+1 1+1 1+1 1+1 1+1 1+1 1+1 1+1 1+1 1+1 1+1 1+1 1+1 1+1 1+1 1+1",
    "1+1 1+1 1+1 1+1 1+1 1+1 1+1 1+1 1+1 1+1 1+1 1+1 1+1 1+1 1+1 1+1 1+1 1+1 1+1 1+1 1+1 1+1",
    "1+1 1+1 1+1 1+1 1+1 1+1 1+1 2+38 2889+38 1+1 5+1 722+86 2195+1 6+43 2+3 320+1 1+1 1+1 1+1",
    "1+1 1+1 1+1 1+1 1+1 1+1 1+1 1+1 1+1 1+1 1+1 1+1 1+1 1+1 1+1 1+1 1+1 1+1 1+1 1+1 1+1 1+1",
    "1+1 1+1 1+1 1+1 1+1 1+1 1+1 1+1 1+1 1+1 1+1 1+1 1+1 1+1 1+1 1+1 1+1 1+1 1+1 1+1 1+1 1+1",
    "1+1 1+1 1+1 1+1 1+1 1+1 1+1 1+1 1+1 1+1 1+1 1+1 1+1 1+1 1+1 1+1 1+1 1+1 1+1 1+1 1+1 1+1",
    "1+1 1+1 1+1 1+1 1+1 9+1 1+1 1+1 1+1 1+1 1+1 1+1 1+1 1+1 1+1 1+1 1+1 1+1 1+1 1+1 1+1 1+1",
    "1+1 1+1 1+1 1+1 1+1 1+1 1+1 1+1 1+1 1+1 1+1 1+1 1+1 1+1 1+1 1+1 1+1 1+1 1+1 1+1 1+1 1+1",
    "1+1 1+1 1+1 1+1 1+1 1+1 1+1 1+1 1+1 1+1 9+8 8+6 10+8 8+8 8+6 11+1 1+1 1+1 1+1 8+8 24+8 8+8",
    "8+8 8+5 11+5 11+4 12+5 11+5 297+1 3+2 6+1 45+16 19+1 818+26 1840+48 48+1 1+3 2+1 1+1 1+1",
    "1+4 1+1 2+1 8+3 1+1 1+1 1+1 1+1 1+1 1+1 1+1 1+1 1+1 1+1 1+1 1+1 1+1 1+1 1+1 1+1 1+1 1+1",
    "1+1 1+1 1+1 1+1 1+1 1+1 1+1 1+1 1+1 1+1 1+1 1+1 1+1 1+1 1+1 1+1 1+1 1+1 1+1 1+1 1+1 1+1",
    "1+1 1+1 1+1 1+1 1+1 1+1 1+1 1+1 1+1 8+1 1+1 4+1 31053+1 1+1 1+1 1+1 1+1 1+1 1+1 1+1 1+1",
    "1+1 1+1 1+1 1+1 1+1 1+1 1+1 1+1 1+1 1+1 1+1 1+1 1+1 1+1 19+1 1+1 1+1 1+1 1+1 1+1 1+1 1+1",
    "1+1 1+1 1+1 1+1 1+1 1+1 135+1 1+1 1+1 1+1 1+1 1+1 1+1 3+1 1+1 1+1 1+1 1+1 1+1 1+1 1+1 1+1",
    "1+1 1+1 1+1 1+1 1+1 1+1 1+1 1+1 1+1 1+1 1+1 1+1 1+1 1+1 1+1 1+1 1+1 1+1 1+1 1+1 1+1 1+1",
    "10+1 1+1 1+2 1+1 1+1 1+1 1+1 4+1 1+1 2+1 1+1 3+1 1+1 1+1 1+1 1+1 1+1 1+1 1+1 1+1 1+1 1+5",
    "1+5 1+1 1+1 1+1 1+1 1+1 1+1 1+1 1+4 1+1 1+2 3+1 5+1 1+1 1+1 1+1 24+1 22315+26 1221+40",
    "136+36 156+11 1+15 1+7 1+2 1770+51 157+22 2874+32 21888+32 31392+34"]),
  (["cwt", "changeswhentitlecased"], [
    "97+26 58+1 41+24 1+8 1+1 1+1 1+1 1+1 1+1 1+1 1+1 1+1 1+1 1+1 1+1 1+1 1+1 1+1 1+1 1+1 1+1",
    "1+1 1+1 1+1 1+1 1+1 1+1 1+1 1+1 1+1 1+1 1+1 2+1 1+1 1+1 1+1 1+1 1+1 1+1 1+2 1+1 1+1 1+1",
    "1+1 1+1 1+1 1+1 1+1 1+1 1+1 1+1 1+1 1+1 1+1 1+1 1+1 1+1 1+1 1+1 1+1 1+1 1+1 1+1 2+1 1+1",
    "1+3 2+1 1+1 2+1 3+1 5+1 2+1 3+3 2+1 2+1 1+1 1+1 2+1 4+1 2+1 3+1 1+1 2+1 3+1 1+1 4+1 1+2",
    "1+2 1+1 1+1 1+1 1+1 1+1 1+1 1+1 1+1 1+2 1+1 1+1 1+1 1+1 1+1 1+1 1+1 1+1 1+3 1+1 1+1 3+1",
    "1+1 1+1 1+1 1+1 1+1 1+1 1+1 1+1 1+1 1+1 1+1 1+1 1+1 1+1 1+1 1+1 1+1 1+1 1+1 3+1 1+1 1+1",
    "1+1 1+1 1+1 1+1 1+1 1+1 8+1 2+2 1+1 4+1 1+1 1+1 1+1 1+6 1+2 1+1 1+2 3+2 1+4 1+5 2+1 1+2",
    "2+1 7+1 2+1 1+2 3+6 5+1 10+2 166+1 43+1 1+1 3+1 3+3 18+1 27+35 1+2 3+3 1+1 1+1 1+1 1+1 1+1",
    "1+1 1+1 1+1 1+1 1+1 1+1 1+5 1+1 2+1 2+1 52+48 1+1 1+1 1+1 1+1 1+1 1+1 1+1 1+1 1+1 1+1 1+1",
    "1+1 1+1 1+1 1+1 1+1 1+1 9+1 1+1 1+1 1+1 1+1 1+1 1+1 1+1 1+1 1+1 1+1 1+1 1+1 1+1 1+1 1+1",
    "1+1 1+1 1+1 1+1 1+1 1+1 1+1 1+1 1+1 1+1 1+1 2+1 1+1 1+1 1+1 1+1 1+1 1+2 1+1 1+1 1+1 1+1",
    "1+1 1+1 1+1 1+1 1+1 1+1 1+1 1+1 1+1 1+1 1+1 1+1 1+1 1+1 1+1 1+1 1+1 1+1 1+1 1+1 1+1 1+1",
    "1+1 1+1 1+1 1+1 1+1 1+1 1+1 1+1 1+1 1+1 1+1 1+1 1+1 1+1 1+1 1+1 1+1 1+1 1+1 1+1 1+1 1+1",
    "49+39 3696+6 2178+9 1+1 238+1 3+1 16+1 114+1 1+1 1+1 1+1 1+1 1+1 1+1 1+1 1+1 1+1 1+1 1+1",
    "1+1 1+1 1+1 1+1 1+1 1+1 1+1 1+1 1+1 1+1 1+1 1+1 1+1 1+1 1+1 1+1 1+1 1+1 1+1 1+1 1+1 1+1",
    "1+1 1+1 1+1 1+1 1+1 1+1 1+1 1+1 1+1 1+1 1+1 1+1 1+1 1+1 1+1 1+1 1+1 1+1 1+1 1+1 1+1 1+1",
    "1+1 1+1 1+1 1+1 1+1 1+1 1+1 1+1 1+1 1+1 1+1 1+1 1+1 1+1 1+1 1+1 1+1 1+1 1+7 5+1 1+1 1+1",
    "1+1 1+1 1+1 1+1 1+1 1+1 1+1 1+1 1+1 1+1 1+1 1+1 1+1 1+1 1+1 1+1 1+1 1+1 1+1 1+1 1+1 1+1",
    "1+1 1+1 1+1 1+1 1+1 1+1 1+1 1+1 1+1 1+1 1+1 1+1 1+1 1+1 1+1 1+1 1+1 1+1 1+1 1+1 1+1 1+1",
    "1+9 8+6 10+8 8+8 8+6 10+8 8+8 8+14 2+8 8+8 8+8 8+5 1+2 6+1 3+3 1+2 8+4 2+2 8+8 10+3 1+2",
    "342+1 33+16 4+1 843+26 1862+48 1+1 3+2 1+1 1+1 1+1 6+1 2+1 10+1 1+1 1+1 1+1 1+1 1+1 1+1",
    "1+1 1+1 1+1 1+1 1+1 1+1 1+1 1+1 1+1 1+1 1+1 1+1 1+1 1+1 1+1 1+1 1+1 1+1 1+1 1+1 1+1 1+1",
    "1+1 1+1 1+1 1+1 1+1 1+1 1+1 1+1 1+1 1+1 1+1 1+1 1+1 1+1 1+1 1+1 1+1 1+1 1+1 1+1 1+1 8+1",
    "1+1 4+1 12+38 1+1 5+1 30995+1 1+1 1+1 1+1 1+1 1+1 1+1 1+1 1+1 1+1 1+1 1+1 1+1 1+1 1+1 1+1",
    "1+1 1+1 1+1 1+1 1+1 1+1 1+1 19+1 1+1 1+1 1+1 1+1 1+1 1+1 1+1 1+1 1+1 1+1 1+1 1+1 1+1 135+1",
    "1+1 1+1 1+1 1+1 1+1 1+1 3+1 1+1 1+1 1+1 1+1 1+1 1+1 1+1 1+1 1+1 1+1 1+1 1+1 1+1 1+1 1+1",
    "1+1 1+1 1+1 1+1 1+1 1+1 1+1 1+1 1+1 1+1 1+1 1+1 1+1 1+1 1+1 10+1 1+1 2+1 1+1 1+1 1+1 1+1",
    "4+1 4+1 1+2 2+1 1+1 1+1 1+1 1+1 1+1 1+1 1+1 1+1 1+1 11+1 1+1 1+1 1+1 1+1 1+1 1+1 1+1 4+1",
    "1+1 2+1 3+1 5+1 1+1 1+1 26+1 860+1 28+80 20288+7 12+5 1065+26 1229+40 136+36 155+11 1+15",
    "1+7 1+2 1795+51 125+22 2874+32 21888+32 31394+34"]),
  (["cwu", "changeswhenuppercased"], [
    "97+26 58+1 41+24 1+8 1+1 1+1 1+1 1+1 1+1 1+1 1+1 1+1 1+1 1+1 1+1 1+1 1+1 1+1 1+1 1+1 1+1",
    "1+1 1+1 1+1 1+1 1+1 1+1 1+1 1+1 1+1 1+1 1+1 2+1 1+1 1+1 1+1 1+1 1+1 1+1 1+2 1+1 1+1 1+1",
    "1+1 1+1 1+1 1+1 1+1 1+1 1+1 1+1 1+1 1+1 1+1 1+1 1+1 1+1 1+1 1+1 1+1 1+1 1+1 1+1 2+1 1+1",
    "1+3 2+1 1+1 2+1 3+1 5+1 2+1 3+3 2+1 2+1 1+1 1+1 2+1 4+1 2+1 3+1 1+1 2+1 3+1 1+1 5+2 1+2",
    "1+2 1+1 1+1 1+1 1+1 1+1 1+1 1+1 1+2 1+1 1+1 1+1 1+1 1+1 1+1 1+1 1+1 1+2 1+2 1+1 3+1 1+1",
    "1+1 1+1 1+1 1+1 1+1 1+1 1+1 1+1 1+1 1+1 1+1 1+1 1+1 1+1 1+1 1+1 1+1 1+1 3+1 1+1 1+1 1+1",
    "1+1 1+1 1+1 1+1 1+1 8+1 2+2 1+1 4+1 1+1 1+1 1+1 1+6 1+2 1+1 1+2 3+2 1+4 1+5 2+1 1+2 2+1",
    "7+1 2+1 1+2 3+6 5+1 10+2 166+1 43+1 1+1 3+1 3+3 18+1 27+35 1+2 3+3 1+1 1+1 1+1 1+1 1+1 1+1",
    "1+1 1+1 1+1 1+1 1+1 1+5 1+1 2+1 2+1 52+48 1+1 1+1 1+1 1+1 1+1 1+1 1+1 1+1 1+1 1+1 1+1 1+1",
    "1+1 1+1 1+1 1+1 1+1 9+1 1+1 1+1 1+1 1+1 1+1 1+1 1+1 1+1 1+1 1+1 1+1 1+1 1+1 1+1 1+1 1+1",
    "1+1 1+1 1+1 1+1 1+1 1+1 1+1 1+1 1+1 1+1 2+1 1+1 1+1 1+1 1+1 1+1 1+2 1+1 1+1 1+1 1+1 1+1",
    "1+1 1+1 1+1 1+1 1+1 1+1 1+1 1+1 1+1 1+1 1+1 1+1 1+1 1+1 1+1 1+1 1+1 1+1 1+1 1+1 1+1 1+1",
    "1+1 1+1 1+1 1+1 1+1 1+1 1+1 1+1 1+1 1+1 1+1 1+1 1+1 1+1 1+1 1+1 1+1 1+1 1+1 1+1 1+1 49+39",
    "2888+43 2+3 760+6 2178+9 1+1 238+1 3+1 16+1 114+1 1+1 1+1 1+1 1+1 1+1 1+1 1+1 1+1 1+1 1+1",
    "1+1 1+1 1+1 1+1 1+1 1+1 1+1 1+1 1+1 1+1 1+1 1+1 1+1 1+1 1+1 1+1 1+1 1+1 1+1 1+1 1+1 1+1",
    "1+1 1+1 1+1 1+1 1+1 1+1 1+1 1+1 1+1 1+1 1+1 1+1 1+1 1+1 1+1 1+1 1+1 1+1 1+1 1+1 1+1 1+1",
    "1+1 1+1 1+1 1+1 1+1 1+1 1+1 1+1 1+1 1+1 1+1 1+1 1+1 1+1 1+1 1+1 1+1 1+1 1+1 1+7 5+1 1+1",
    "1+1 1+1 1+1 1+1 1+1 1+1 1+1 1+1 1+1 1+1 1+1 1+1 1+1 1+1 1+1 1+1 1+1 1+1 1+1 1+1 1+1 1+1",
    "1+1 1+1 1+1 1+1 1+1 1+1 1+1 1+1 1+1 1+1 1+1 1+1 1+1 1+1 1+1 1+1 1+1 1+1 1+1 1+1 1+1 1+1",
    "1+1 1+9 8+6 10+8 8+8 8+6 10+8 8+8 8+14 2+53 1+2 4+1 1+1 3+3 1+2 4+1 3+4 2+2 8+8 10+3 1+2",
    "4+1 337+1 33+16 4+1 843+26 1862+48 1+1 3+2 1+1 1+1 1+1 6+1 2+1 10+1 1+1 1+1 1+1 1+1 1+1",
    "1+1 1+1 1+1 1+1 1+1 1+1 1+1 1+1 1+1 1+1 1+1 1+1 1+1 1+1 1+1 1+1 1+1 1+1 1+1 1+1 1+1 1+1",
    "1+1 1+1 1+1 1+1 1+1 1+1 1+1 1+1 1+1 1+1 1+1 1+1 1+1 1+1 1+1 1+1 1+1 1+1 1+1 1+1 1+1 1+1",
    "8+1 1+1 4+1 12+38 1+1 5+1 30995+1 1+1 1+1 1+1 1+1 1+1 1+1 1+1 1+1 1+1 1+1 1+1 1+1 1+1 1+1",
    "1+1 1+1 1+1 1+1 1+1 1+1 1+1 1+1 19+1 1+1 1+1 1+1 1+1 1+1 1+1 1+1 1+1 1+1 1+1 1+1 1+1 1+1",
    "135+1 1+1 1+1 1+1 1+1 1+1 1+1 3+1 1+1 1+1 1+1 1+1 1+1 1+1 1+1 1+1 1+1 1+1 1+1 1+1 1+1 1+1",
    "1+1 1+1 1+1 1+1 1+1 1+1 1+1 1+1 1+1 1+1 1+1 1+1 1+1 1+1 1+1 1+1 10+1 1+1 2+1 1+1 1+1 1+1",
    "1+1 4+1 4+1 1+2 2+1 1+1 1+1 1+1 1+1 1+1 1+1 1+1 1+1 1+1 11+1 1+1 1+1 1+1 1+1 1+1 1+1 1+1",
    "4+1 1+1 2+1 3+1 5+1 1+1 1+1 26+1 860+1 28+80 20288+7 12+5 1065+26 1229+40 136+36 155+11",
    "1+15 1+7 1+2 1795+51 125+22 2874+32 21888+32 31394+34"]),
  (["dash"], [
    "45+1 1372+1 51+1 3649+1 1029+1 2057+6 61+1 39+1 15+1 390+1 3076+1 2+1 31+2 4+1 28+1 446+1",
    "19+1 111+1 52624+2 37+1 10+1 169+1 3680+1 318+1"]),
  (["di", "defaultignorablecodepoint"], [
    "173+1 673+1 716+1 2882+2 1619+2 85+5 2043+5 26+5 49+16 4340+1 52379+16 239+1 160+1 79+9",
    "48295+4 5327+8 798341+4096"]),
  (["dep", "deprecated"], [
    "329+1 1321+1 2307+1 1+1 2089+2 2245+6 697+2 908502+1"]),
  (["dia", "diacritic"], [
    "94+1 1+1 71+1 6+1 4+1 2+2 503+159 1+8 5+6 17+2 4+1 9+2 253+5 209+1 55+45 1+1 1+2 1+2 1+1",
    "131+8 4+2 134+2 4+2 3+3 67+27 91+11 58+11 34+2 126+8 41+10 16+28 61+1 16+1 3+4 28+1 74+1",
    "16+1 110+1 16+1 110+1 16+1 47+3 60+1 16+1 7+1 119+1 110+1 16+1 110+1 16+1 109+2 16+1 124+1",
    "111+1 12+6 1+1 107+1 13+5 75+2 27+1 1+1 1+1 4+2 66+3 1+2 62+1 112+1 1+2 40+2 4+5 25+7 1+1",
    "10+2 705+3 948+2 30+1 148+11 9+1 347+3 292+1 20+8 2+1 48+15 2+11 104+1 15+1 38+9 54+2 58+1",
    "11+2 66+2 64+6 82+25 4+1 6+1 2+3 50+63 48+36 5+12 37+11 445+1 1+3 11+3 13+3 13+3 13+2",
    "3312+3 317+1 506+6 105+4 95+1 30066+1 12+2 1+1 28+2 82+2 14+34 102+3 109+2 12+1 37+1 151+1",
    "27+18 57+4 36+1 95+1 12+1 36+1 149+3 65+4 51+1 100+5 9+3 128+2 20272+1 769+16 270+1 1+1",
    "47+1 45+2 67+1 764+1 1183+6 1+42 1+9 637+3 4+1 165+2 571+6 38+1 26+5 399+3 70+11 49+4",
    "192+1 41+1 72+2 120+2 62+1 76+1 9+3 104+2 178+2 80+2 16+1 24+7 3+5 89+3 1+2 13+2 95+1 3+1",
    "123+2 251+2 126+1 118+2 115+1 269+2 258+2 4+1 156+1 83+1 18+1 81+1 421+1 258+1 1+2 81+1",
    "425+2 23+1 5356+15 11481+1 2496+5 59+7 564+2 546+17 80+2 16382+4 1+7 1+2 7937+46 2+23",
    "544+3 3+6 8+8 2+7 30+4 3714+62 194+7 375+1 61+4 766+2 736+7 109+3 1+3"]),
  (["emoji"], [
    "35+1 6+1 5+10 111+1 4+1 8077+1 12+1 216+1 22+1 90+6 15+2 367+2 12+1 166+1 25+11 4+3 199+1",
    "231+2 10+1 9+1 58+4 1+5 9+1 2+1 2+2 2+1 4+1 2+1 1+2 2+1 3+1 3+2 8+3 5+1 1+1 5+12 11+2 2+1",
    "1+2 1+1 18+1 2+2 18+6 1+1 1+2 3+2 5+1 2+2 4+2 11+2 5+2 2+1 5+2 1+1 1+2 20+2 5+6 1+4 2+1",
    "4+1 2+1 2+6 1+1 2+1 1+1 1+1 6+1 3+1 6+1 10+2 15+1 2+1 4+1 1+1 4+3 1+1 11+2 48+3 9+1 14+1",
    "14+1 372+2 463+3 19+2 51+1 4+1 1242+1 12+1 601+1 1+1 114026+1 202+1 160+2 12+2 14+1 2+10",
    "75+26 1+2 23+1 20+1 2+9 21+2 174+34 2+112 2+2 1+3 2+83 2+3 1+263 1+63 11+6 1+24 7+2 2+8",
    "12+1 2+4 2+1 4+2 13+2 2+1 8+2 9+1 5+3 12+3 8+3 2+1 1+1 4+1 6+1 3+1 6+86 48+70 5+8 2+3 4+10",
    "3+1 1+2 3+1 2+10 227+12 4+1 283+47 1+10 1+185 112+13 3+10 5+56 7+15 2+11 6+9"]),
  (["ecomp", "emojicomponent"], [
    "35+1 6+1 5+10 8147+1 213+1 56619+1 62422+26 507+5 1456+4 788076+96"]),
  (["emod", "emojimodifier"], [
    "127995+5"]),
  (["ebase", "emojimodifierbase"], [
    "9757+1 219+1 16+4 117879+1 60+3 2+1 2+3 117+2 2+11 21+19 3+1 4+3 1+3 7+1 1+1 24+1 201+2",
    "4+1 21+1 4+2 174+3 3+5 83+1 16+3 9+1 11+1 575+1 2+1 8+8 6+1 9+10 2+3 56+1 61+2 1+2 1+1",
    "17+3 1+13 229+3 42+9"]),
  (["epres", "emojipresentation"], [
    "8986+2 205+4 3+1 2+1 521+2 21+2 50+12 43+1 19+1 13+1 8+2 17+2 5+2 8+1 5+1 21+1 7+2 1+1 4+1",
    "2+1 7+1 4+2 28+1 35+1 1+1 4+3 1+1 61+3 24+1 14+1 859+2 51+1 4+1 115886+1 202+1 190+1 2+10",
    "75+26 1+1 24+1 20+1 2+5 1+3 21+2 174+33 12+9 1+70 1+22 12+43 4+5 12+17 3+1 3+71 1+1 1+187",
    "2+63 13+4 1+24 18+1 26+2 13+1 86+85 48+70 6+1 3+3 2+3 4+4 11+2 7+9 227+12 4+1 283+47 1+10",
    "1+185 112+13 3+10 5+56 7+15 2+11 6+9"]),
  (["extpict", "extendedpictographic"], [
    "169+1 4+1 8077+1 12+1 216+1 22+1 90+6 15+2 367+2 12+1 95+1 70+1 25+11 4+3 199+1 231+2 10+1",
    "9+1 58+4 1+6 1+12 1+114 10+118 2+11 1+1 1+1 6+1 3+1 6+1 10+2 15+1 2+1 4+1 1+1 4+3 1+1 11+5",
    "45+3 9+1 14+1 14+1 372+2 463+3 19+2 51+1 4+1 1242+1 12+1 601+1 1+1 114022+256 13+3 31+1",
    "60+6 12+2 14+1 2+10 18+57 27+15 10+1 20+1 2+9 1+4 9+434 5+318 8+266 48+128 116+12 85+43",
    "12+4 56+8 10+6 40+8 30+82 12+47 1+10 1+441 256+1022"]),
  (["ext", "extender"], [
    "183+1 536+2 878+1 441+1 630+1 137+1 89+1 752+1 127+1 2371+1 56+1 611+1 398+1 68+1 5001+1",
    "43+5 103+2 93+3 28438+1 1526+1 962+1 22+1 137+1 108+1 21+2 21627+1 2064+2 1483+1 27+1 4+1",
    "1223+1 293+1 116+2 498+3 1231+1 20649+2 1180+2 1+1 29016+2 1201+1 852+3"]),
  (["grbase", "graphemebase"], [
    "32+95 33+13 1+594 112+8 2+6 4+7 1+1 1+20 1+224 7+166 1+38 2+50 2+3 46+1 1+1 2+1 2+1 9+27",
    "4+6 17+10 11+1 1+46 21+16 1+101 8+1 6+2 2+1 4+32 2+1 1+30 29+89 11+1 14+43 9+7 3+24 4+1",
    "9+1 3+1 7+15 1+25 5+1 1+11 5+31 17+42 57+55 1+1 1+4 8+4 1+3 7+10 2+29 1+2 1+8 2+2 2+22 1+7",
    "1+1 3+4 3+1 1+2 6+2 2+2 1+1 13+2 1+3 4+24 5+1 1+6 4+2 2+22 1+7 1+2 1+2 1+2 4+3 24+4 1+1",
    "7+10 2+3 1+1 12+1 1+9 1+3 1+22 1+7 1+2 1+5 3+4 8+1 1+2 3+1 15+2 4+12 7+1 8+2 1+8 2+2 2+22",
    "1+7 1+2 1+5 3+1 2+1 6+2 2+2 15+2 1+3 4+18 11+1 1+6 3+3 1+4 3+2 1+1 1+2 3+2 3+3 3+12 5+1",
    "1+2 3+3 1+3 3+1 21+21 6+3 1+8 1+3 1+23 1+16 3+1 3+4 19+3 2+1 2+2 4+10 7+10 1+11 1+3 1+23",
    "1+10 1+5 3+2 2+1 1+2 24+2 1+2 4+10 1+3 14+11 1+3 1+41 2+1 1+2 5+3 1+3 1+2 4+3 1+10 4+26",
    "2+2 1+18 3+24 1+9 1+1 2+7 9+2 6+7 7+10 2+3 12+48 1+2 11+8 8+13 37+2 1+1 1+5 1+24 1+1 1+10",
    "1+2 9+1 2+5 1+1 9+10 2+4 32+24 2+27 1+1 1+1 1+14 1+36 18+1 5+1 2+5 49+8 1+6 1+13 37+45 4+1",
    "6+1 2+2 2+25 2+4 3+16 4+13 1+2 2+6 1+15 1+40 1+1 5+1 2+377 1+4 2+7 1+1 1+4 2+41 1+4 2+33",
    "1+4 2+7 1+1 1+4 2+15 1+57 1+4 2+67 5+29 3+26 6+86 2+6 2+669 3+89 7+18 13+19 3+2 9+18 14+13",
    "1+3 15+52 2+1 7+8 1+2 11+9 3+10 6+10 6+11 5+10 6+89 7+5 2+34 1+1 5+70 10+31 4+4 2+3 4+2",
    "1+6 7+1 3+42 2+5 11+44 4+26 6+11 3+57 2+2 3+56 1+1 9+1 1+2 8+6 13+10 6+10 6+14 86+48 10+4",
    "3+8 1+29 9+12 2+32 4+2 6+56 1+1 2+3 1+1 13+48 8+2 5+15 3+62 5+43 2+11 11+1 13+1 7+4 1+6",
    "1+3 2+1 5+192 64+278 2+6 2+38 2+6 2+8 1+1 1+1 1+1 1+31 2+53 1+15 1+14 2+6 1+19 2+3 1+9",
    "1+11 5+24 7+49 16+2 2+27 1+13 3+33 63+140 4+666 22+11 21+1812 2+32 1+344 3+2 5+45 1+1 5+1",
    "2+56 7+2 15+23 9+7 1+7 1+7 1+7 1+7 1+7 1+7 1+7 33+94 34+26 1+89 12+214 26+58 6+16 1+86",
    "4+101 5+43 1+94 1+86 9+48 1+29293 3+55 9+348 20+47 4+1 10+32 2+80 2+6 8+206 2+2 1+1 1+8",
    "21+16 1+3 1+4 1+25 2+5 4+10 6+56 8+68 10+12 24+13 1+38 8+25 11+1 12+30 6+48 1+2 4+2 2+2",
    "1+13 1+11 4+7 1+25 1+41 6+2 2+2 11+3 1+8 1+1 2+10 2+32 1+51 1+1 3+2 2+5 2+1 1+1 24+17 2+8",
    "11+6 2+6 2+6 9+7 1+7 1+60 4+117 1+2 1+4 3+10 6+11172 12+23 4+49 8452+366 2+106 38+7 12+5",
    "5+1 1+24 1+5 1+1 1+2 1+2 1+125 16+445 2+54 7+1 32+16 16+10 22+35 1+19 1+4 4+5 1+135 4+157",
    "2+31 3+6 2+6 2+6 2+3 3+7 1+7 13+2 2+12 1+26 1+19 1+2 1+15 2+14 34+123 5+3 4+45 3+88 1+13",
    "3+1 47+45 131+29 3+49 16+27 4+36 9+30 5+38 10+30 1+37 4+14 42+158 2+10 6+36 4+36 4+40 8+52",
    "11+12 1+15 1+7 1+2 1+11 1+15 1+7 1+2 3+52 12+311 9+22 10+8 24+6 1+42 1+9 69+6 2+1 1+44 1+2",
    "3+1 2+23 1+72 8+9 48+19 1+2 5+33 3+27 5+1 64+56 4+20 2+47 15+4 1+3 1+29 10+9 7+9 7+64",
    "32+37 6+12 9+54 3+29 2+27 5+26 7+4 12+7 80+73 55+51 13+51 7+42 12+10 6+38 8+24 8+2 208+31",
    "1+42 3+1 2+2 16+3 59+40 8+22 11+9 22+18 4+4 38+28 20+23 9+1 1+54 15+7 4+30 1+2 2+1 12+49",
    "4+2 2+2 1+4 14+25 7+10 9+36 5+1 9+18 8+35 1+3 11+52 9+1 1+8 4+2 1+16 1+20 11+18 1+28 3+2",
    "4+6 1+2 63+7 1+1 1+4 1+15 1+11 6+47 1+3 13+10 8+2 1+8 2+2 2+22 1+7 1+2 1+5 3+1 1+1 1+4 2+2",
    "2+2 3+1 12+7 28+10 1+1 2+1 1+38 1+1 1+2 15+1 1+2 3+1 1+3 1+2 39+56 8+2 3+1 1+21 1+1 1+3",
    "30+48 1+2 6+1 1+2 1+1 2+1 2+4 8+10 166+47 1+2 6+4 2+1 2+27 36+51 8+2 1+1 2+4 11+10 6+13",
    "19+43 1+1 1+2 8+2 6+10 6+20 28+27 3+1 1+2 4+1 9+23 185+47 9+1 2+1 100+83 12+8 2+1 2+8 1+2",
    "1+24 1+5 1+2 6+4 1+3 9+10 70+8 2+42 8+4 1+4 27+1 10+40 6+2 4+8 9+1 6+2 3+46 13+1 2+9 13+73",
    "7+10 182+34 14+10 6+9 1+38 14+1 1+6 10+29 3+32 25+1 7+1 2+1 75+7 1+2 1+38 21+1 9+10 6+6",
    "1+2 1+37 4+2 1+1 1+1 7+10 310+19 2+4 9+15 1+36 8+2 3+23 86+1 15+50 13+923 102+111 1+5",
    "11+196 2636+99 13+1072 17+6 25+3995 5+583 6841+30 12+3 3+10 1734+569 7+31 1+10 4+81 1+10",
    "6+30 7+1 10+48 7+15 10+10 1+7 1+21 5+19 432+58 198+91 101+75 5+56 11+13 64+4 28+6136",
    "8+1238 41+10 8935+4 1+7 1+2 1+291 15+1 29+3 2+1 14+4 8+396 2308+107 5+13 3+9 7+10 2+1 2+1",
    "3936+250 6+436 156+116 60+246 10+39 2+60 5+3 22+2 7+30 4+61 21+66 3+1 122+20 12+20 12+87",
    "9+25 135+85 1+71 1+2 2+1 2+2 2+4 1+12 1+1 1+7 1+65 1+4 2+8 1+7 1+28 1+4 1+5 1+1 3+7 1+340",
    "2+292 2+562 55+4 50+8 1+14 1+7 1140+31 6+6 261+62 146+45 10+7 2+10 4+2 320+30 18+44 4+10",
    "5+1 464+28 4+10 214+30 2+11 4+1 480+7 1+4 1+2 1+15 1+197 2+9 48+68 7+1 4+10 4+2 785+68",
    "76+61 194+4 1+27 1+2 1+1 2+1 1+10 1+4 1+1 1+1 6+1 4+1 1+1 1+1 1+3 1+2 1+1 2+1 1+1 1+1 1+1",
    "1+1 1+2 1+1 2+4 1+7 1+4 1+4 1+1 1+10 1+17 5+3 1+5 1+17 52+2 270+44 4+100 12+15 2+15 1+15",
    "1+37 10+174 56+29 13+44 4+9 7+2 14+6 154+984 4+17 3+13 3+119 4+95 6+12 4+1 15+12 4+56 8+10",
    "6+40 8+30 2+12 4+2 62+340 12+14 2+13 3+10 5+56 7+15 2+11 6+9 7+147 1+102 1030+42720",
    "32+4154 6+222 2+5762 14+7473 15+622 2466+542 1506+4939 5+4192"]),
  (["grext", "graphemeextend"], [
    "768+112 275+7 263+45 1+1 1+2 1+2 1+1 72+11 48+21 16+1 101+7 2+6 2+2 1+4 35+1 30+27 91+11",
    "58+9 9+1 24+4 1+9 1+3 1+5 43+3 59+9 42+24 1+32 55+1 1+1 4+8 4+1 3+7 10+2 29+1 58+1 1+1 2+4",
    "8+1 9+1 10+2 26+1 2+2 57+1 4+2 4+2 2+3 3+1 30+2 3+1 11+2 57+1 4+5 1+2 4+1 20+2 22+6 1+1",
    "58+1 1+2 1+4 8+1 7+3 10+2 30+1 59+1 1+1 12+1 9+1 40+1 3+1 55+1 1+3 5+3 1+4 7+2 11+2 29+1",
    "58+1 2+2 1+1 3+3 1+4 7+2 11+2 28+2 57+2 1+1 2+4 8+1 9+1 10+2 29+1 72+1 4+1 2+3 1+1 8+1",
    "81+1 2+7 12+8 98+1 2+9 11+7 73+2 27+1 1+1 1+1 55+14 1+5 1+2 5+11 1+36 9+1 102+4 1+6 1+2",
    "2+2 25+2 4+3 16+4 13+1 2+2 6+1 15+1 703+3 946+4 28+3 29+2 30+2 64+2 1+7 8+1 2+11 9+1 45+3",
    "1+1 117+2 34+1 118+3 4+2 9+1 6+3 219+2 2+1 58+1 1+7 1+1 1+1 2+8 6+10 2+1 48+31 49+4 48+10",
    "4+3 38+9 12+2 32+4 2+6 56+1 1+2 3+1 1+5 56+8 2+2 152+3 1+13 1+7 4+1 6+1 3+2 198+64 524+1",
    "195+33 3070+3 141+1 96+32 554+6 105+2 30164+4 1+10 32+2 80+2 272+1 3+1 4+1 25+2 5+1 151+2",
    "26+18 13+1 38+8 25+11 1+1 44+3 48+1 2+4 2+2 2+1 36+1 67+6 2+2 2+2 12+1 8+1 47+1 51+1 1+3",
    "2+2 5+2 1+1 42+2 8+1 238+1 2+1 4+1 20272+1 737+16 16+16 366+2 605+1 226+1 149+5 1670+3 1+2",
    "5+4 40+3 4+1 165+2 573+4 65+5 317+2 79+4 70+11 49+4 123+1 54+15 41+1 2+2 10+3 49+4 2+2 7+1",
    "61+3 36+5 1+8 62+1 12+2 52+9 1+1 8+4 2+1 95+3 2+4 6+1 2+1 157+1 3+8 21+2 57+2 1+1 1+1 12+1",
    "9+1 14+7 3+5 67+1 2+6 1+1 2+1 1+3 4+3 1+1 14+2 85+8 2+3 1+1 23+1 81+1 2+6 1+1 2+1 1+2 1+2",
    "235+1 2+4 6+2 1+2 27+2 85+8 2+1 1+2 106+1 1+1 2+8 101+1 1+1 2+4 1+5 259+9 1+2 245+1 10+4",
    "4+1 144+4 2+2 4+1 32+10 40+6 2+4 8+1 9+6 2+3 46+13 1+2 406+7 1+6 1+1 82+22 2+7 1+2 1+2",
    "122+6 3+1 1+2 1+7 1+1 72+2 3+1 1+1 347+2 11+2 52+5 5+3 23+1 5349+1 6+15 11464+12 3+3",
    "2496+5 59+7 1048+1 63+4 81+1 11+2 19627+2 4705+46 2+23 542+5 3+6 8+8 2+7 30+4 148+3",
    "1979+55 4+50 8+1 14+1 22+5 1+15 1360+7 1+17 2+7 1+2 1+5 100+1 160+7 375+1 61+4 508+4 254+2",
    "736+7 109+7 792277+96 128+240"]),
  (["grlink", "graphemelink"], [
    "2381+1 127+1 127+1 127+1 127+1 127+1 127+1 127+1 109+2 16+1 124+1 111+1 127+1 201+1 180+2",
    "1753+2 30+1 157+1 653+1 227+1 101+2 70+2 4491+1 31366+1 37+1 151+1 142+1 108+1 309+1 246+1",
    "24145+1 1542+1 41+1 14+1 57+1 121+2 139+1 116+1 180+1 98+1 128+3 113+1 127+1 252+1 127+1",
    "118+1 116+1 269+1 259+2 161+1 83+1 18+1 81+1 421+1 260+2 81+1 425+2 16876+1"]),
  (["hex", "hexdigit"], [
    "48+10 7+6 26+6 65193+10 7+6 26+6"]),
  (["hyphen"], [
    "45+1 127+1 1244+1 4731+1 2057+2 3589+1 739+1 52583+1 169+1 87+1"]),
  (["idsb", "idsbinaryoperator"], [
    "12272+2 2+10 497+1"]),
  (["idst", "idstrinaryoperator"], [
    "12274+2"]),
  (["idsu", "idsunaryoperator"], [
    "12286+2"]),
  (["idcompatmathcontinue"], [
    "178+2 5+1 8118+1 3+11 1+15 371+1 4+1 22+1 111778+1 25+1 31+1 25+1 31+1 25+1 31+1 25+1 31+1",
    "25+1"]),
  (["idcompatmathstart"], [
    "8706+1 4+1 22+1 111778+1 25+1 31+1 25+1 31+1 25+1 31+1 25+1 31+1 25+1"]),
  (["idc", "idcontinue"], [
    "48+10 7+26 4+1 1+26 47+1 10+1 1+1 2+1 5+23 1+31 1+458 4+12 14+5 7+1 1+1 17+117 1+2 2+4 1+1",
    "6+5 1+1 1+20 1+83 1+139 1+5 2+166 1+38 2+1 6+41 8+45 1+1 1+2 1+2 1+1 8+27 4+4 29+11 5+74",
    "4+102 1+8 2+10 1+19 2+1 16+59 2+101 14+54 4+1 2+1 2+46 18+28 4+11 5+24 1+6 8+75 1+129 2+10",
    "1+19 1+8 2+2 2+22 1+7 1+1 3+4 2+9 2+2 2+4 8+1 4+2 1+5 2+12 10+1 1+1 2+3 1+6 4+2 2+22 1+7",
    "1+2 1+2 1+2 2+1 1+5 4+2 2+3 3+1 7+4 1+1 7+16 11+3 1+9 1+3 1+22 1+7 1+2 1+5 2+10 1+3 1+3",
    "2+1 15+4 2+10 9+7 1+3 1+8 2+2 2+22 1+7 1+2 1+5 2+9 2+2 2+3 7+3 4+2 1+5 2+10 1+1 16+2 1+6",
    "3+3 1+4 3+2 1+1 1+2 3+2 3+3 3+12 4+5 3+3 1+4 2+1 6+1 14+10 16+13 1+3 1+23 1+16 2+9 1+3 1+4",
    "7+2 1+3 2+1 2+4 2+10 16+4 1+8 1+3 1+23 1+10 1+5 2+9 1+3 1+4 7+2 6+2 1+4 2+10 1+3 12+13 1+3",
    "1+51 1+3 1+5 5+4 7+5 2+10 10+6 1+3 1+18 3+24 1+9 1+1 2+7 3+1 4+6 1+1 1+8 6+10 2+2 13+58",
    "5+15 1+10 39+2 1+1 1+5 1+24 1+1 1+23 2+5 1+1 1+7 1+10 2+4 32+1 23+2 6+10 11+1 1+1 1+1 4+10",
    "1+36 4+20 1+18 1+36 9+1 57+74 6+78 2+38 1+1 5+1 2+43 1+333 1+4 2+7 1+1 1+4 2+41 1+4 2+33",
    "1+4 2+7 1+1 1+4 2+15 1+57 1+4 2+67 2+3 9+9 14+16 16+86 2+6 3+620 2+17 1+26 5+75 3+11 7+22",
    "9+22 11+20 12+13 1+3 1+2 12+84 3+1 4+2 2+10 33+3 1+11 6+89 7+43 5+70 10+31 1+12 4+12 10+40",
    "2+5 11+44 4+26 6+11 37+28 4+63 1+29 2+11 6+10 13+1 8+14 1+16 49+77 3+10 17+9 12+116 12+56",
    "8+10 3+49 2+11 5+43 2+3 16+3 1+39 5+534 2+6 2+38 2+6 2+8 1+1 1+1 1+1 1+31 2+53 1+7 1+1 3+3",
    "1+7 3+4 2+6 4+13 5+3 1+7 15+2 49+2 19+1 28+1 13+1 16+13 51+13 4+1 3+12 17+1 4+1 2+10 1+1",
    "2+6 6+1 1+1 1+1 1+16 2+4 5+5 4+1 17+41 2679+229 6+9 12+38 1+1 5+1 2+56 7+1 15+24 9+7 1+7",
    "1+7 1+7 1+7 1+7 1+7 1+7 1+32 517+3 25+15 1+5 2+5 4+86 2+7 1+95 5+43 1+94 17+32 48+16",
    "512+6592 64+22157 67+46 2+269 3+28 20+48 4+10 1+115 37+9 2+103 2+67 2+2 1+1 1+8 21+54 4+1",
    "19+52 12+70 10+10 6+24 3+1 1+49 2+36 12+29 3+65 14+11 6+31 1+55 9+14 2+10 6+23 3+73 24+3",
    "2+16 2+5 10+6 2+6 2+6 9+7 1+7 1+43 1+14 6+123 1+2 2+10 6+11172 12+23 4+49 8452+366 2+106",
    "38+7 12+5 5+12 1+13 1+5 1+1 1+2 1+2 1+108 33+363 18+64 2+54 40+12 4+16 16+16 3+2 24+3 32+5",
    "1+135 19+10 7+26 4+1 1+26 10+90 3+6 2+6 2+6 2+3 35+12 1+26 1+19 1+2 1+15 2+14 34+123 69+53",
    "136+1 130+29 3+49 15+1 31+32 13+30 5+43 5+30 2+36 4+8 1+5 42+158 2+10 6+36 4+36 4+40 8+52",
    "12+11 1+15 1+7 1+2 1+11 1+15 1+7 1+2 3+52 12+311 9+22 10+8 24+6 1+42 1+9 69+6 2+1 1+44 1+2",
    "3+1 2+23 10+23 9+31 65+19 1+2 10+22 10+26 70+56 6+2 64+4 1+2 5+8 1+3 1+29 2+3 4+1 32+29",
    "3+29 35+8 1+30 25+54 10+22 10+19 13+18 110+73 55+51 13+51 13+40 8+10 6+38 3+5 1+23 250+42",
    "1+2 3+2 16+3 55+33 10+1 8+33 31+22 42+21 27+23 9+71 31+16 9+60 7+1 13+25 7+10 6+53 1+10",
    "4+4 8+36 2+1 9+69 4+4 1+13 1+1 35+18 1+37 6+4 62+7 1+1 1+4 1+15 1+10 7+59 5+10 6+4 1+8 2+2",
    "2+22 1+7 1+2 1+5 1+10 2+2 2+3 2+1 6+1 5+7 2+7 3+5 11+10 1+1 2+1 1+38 1+10 1+1 2+1 1+4 1+8",
    "13+2 29+75 5+10 4+4 30+70 1+1 8+10 166+54 2+9 23+6 34+65 3+1 11+10 38+57 7+10 6+20 28+27",
    "2+15 4+10 6+7 185+59 101+74 21+8 2+1 2+8 1+2 1+30 1+2 2+9 12+10 70+8 2+46 2+8 1+2 27+63",
    "8+1 8+74 3+1 18+73 199+33 15+10 6+9 1+45 1+9 15+10 24+30 2+22 1+14 73+7 1+2 1+44 3+1 1+2",
    "1+9 8+10 6+6 1+2 1+37 1+2 1+6 7+10 310+23 9+17 1+41 3+5 13+11 85+1 79+922 102+111 17+196",
    "2636+97 15+1072 16+22 10+3995 5+583 6841+58 1734+569 7+31 1+10 6+79 1+10 6+30 2+5 11+55",
    "9+4 12+10 9+21 5+19 432+45 3+10 198+64 128+75 4+57 7+17 64+2 1+2 11+2 14+6136 8+1238 41+10",
    "8935+4 1+7 1+2 1+291 15+1 29+3 2+1 14+4 8+396 2308+107 5+13 3+9 7+10 3+2 4177+10 518+46",
    "2+23 542+5 3+6 8+8 2+7 30+4 148+3 443+85 1+71 1+2 2+1 2+2 2+4 1+12 1+1 1+7 1+65 1+4 2+8",
    "1+7 1+28 1+4 1+5 1+1 3+7 1+340 2+25 1+25 1+31 1+25 1+31 1+25 1+31 1+25 1+31 1+25 1+8 2+50",
    "512+55 4+50 8+1 14+1 22+5 1+15 1104+31 6+6 213+7 1+17 2+7 1+2 1+5 5+62 33+1 112+45 3+14",
    "2+10 4+1 321+31 17+58 470+42 214+43 485+7 1+4 1+2 1+15 1+197 11+7 41+76 4+10 1190+4 1+27",
    "1+2 1+1 2+1 1+10 1+4 1+1 1+1 6+1 4+1 1+1 1+1 1+3 1+2 1+1 2+1 1+1 1+1 1+1 1+1 1+2 1+1 2+4",
    "1+7 1+4 1+4 1+1 1+10 1+17 5+3 1+5 1+17 3380+10 1030+42720 32+4154 6+222 2+5762 14+7473",
    "15+622 2466+542 1506+4939 5+4192 712016+240"]),
  (["ids", "idstart"], [
    "65+26 6+26 47+1 10+1 4+1 5+23 1+31 1+458 4+12 14+5 7+1 1+1 129+5 1+2 2+4 1+1 6+1 1+3 1+1",
    "1+20 1+83 1+139 8+166 1+38 2+1 6+41 71+27 4+4 45+43 35+2 1+99 1+1 15+2 7+2 10+3 2+1 16+1",
    "1+30 29+89 11+1 24+33 9+2 4+1 5+22 4+1 9+1 3+1 23+25 7+11 5+24 1+6 17+42 58+54 3+1 18+1",
    "7+10 15+16 4+8 2+2 2+22 1+7 1+1 3+4 3+1 16+1 13+2 1+3 14+2 10+1 8+6 4+2 2+22 1+7 1+2 1+2",
    "1+2 31+4 1+1 19+3 16+9 1+3 1+22 1+7 1+2 1+5 3+1 18+1 15+2 23+1 11+8 2+2 2+22 1+7 1+2 1+5",
    "3+1 30+2 1+3 15+1 17+1 1+6 3+3 1+4 3+2 1+1 1+2 3+2 3+3 3+12 22+1 52+8 1+3 1+23 1+16 3+1",
    "26+3 2+1 2+2 30+1 4+8 1+3 1+23 1+10 1+5 3+1 31+2 1+2 15+2 17+9 1+3 1+41 2+1 16+1 5+3 8+3",
    "24+6 5+18 3+24 1+9 1+1 2+7 58+48 1+2 12+7 58+2 1+1 1+5 1+24 1+1 1+10 1+2 9+1 2+5 1+1 21+4",
    "32+1 63+8 1+36 27+5 115+43 20+1 16+6 4+4 3+1 3+2 7+3 4+13 12+1 17+38 1+1 5+1 2+43 1+333",
    "1+4 2+7 1+1 1+4 2+41 1+4 2+33 1+4 2+7 1+1 1+4 2+15 1+57 1+4 2+67 37+16 16+86 2+6 3+620",
    "2+17 1+26 5+75 3+11 7+18 13+19 14+18 14+13 1+3 15+52 35+1 4+1 67+89 7+41 1+1 5+70 10+31",
    "49+30 2+5 11+44 4+26 54+23 9+53 82+1 93+47 17+8 54+30 13+2 10+44 26+36 41+3 10+36 2+11",
    "5+43 2+3 41+4 1+6 1+2 3+1 5+192 64+278 2+6 2+38 2+6 2+8 1+1 1+1 1+1 1+31 2+53 1+7 1+1 3+3",
    "1+7 3+4 2+6 4+13 5+3 1+7 116+1 13+1 16+13 101+1 4+1 2+10 1+1 2+6 6+1 1+1 1+1 1+16 2+4 5+5",
    "4+1 17+41 2679+229 6+4 3+2 12+38 1+1 5+1 2+56 7+1 16+23 9+7 1+7 1+7 1+7 1+7 1+7 1+7 1+7",
    "550+3 25+9 7+5 2+5 4+86 4+5 1+90 1+4 5+43 1+94 17+32 48+16 512+6592 64+22157 67+46 2+269",
    "3+16 10+2 20+47 16+31 2+80 39+9 2+103 2+67 2+2 1+1 1+8 21+16 1+3 1+4 1+23 29+52 14+50 62+6",
    "3+1 1+2 11+28 10+23 25+29 7+47 28+1 16+5 1+10 10+5 1+41 23+3 1+8 20+23 3+1 3+50 1+1 3+2",
    "2+5 2+1 1+1 24+3 2+11 7+3 12+6 2+6 2+6 9+7 1+7 1+43 1+14 6+115 29+11172 12+23 4+49",
    "8452+366 2+106 38+7 12+5 5+1 1+10 1+13 1+5 1+1 1+2 1+2 1+108 33+363 18+64 2+54 40+12 116+5",
    "1+135 36+26 6+26 11+89 3+6 2+6 2+6 2+3 35+12 1+26 1+19 1+2 1+15 2+14 34+123 69+53 267+29",
    "3+49 47+32 13+30 5+38 10+30 2+36 4+8 1+5 42+158 18+36 4+36 4+40 8+52 12+11 1+15 1+7 1+2",
    "1+11 1+15 1+7 1+2 3+52 12+311 9+22 10+8 24+6 1+42 1+9 69+6 2+1 1+44 1+2 3+1 2+23 10+23",
    "9+31 65+19 1+2 10+22 10+26 70+56 6+2 64+1 15+4 1+3 1+29 42+29 3+29 35+8 1+28 27+54 10+22",
    "10+19 13+18 110+73 55+51 13+51 13+36 38+28 9+23 250+42 6+2 16+3 59+29 10+1 8+22 42+18",
    "46+21 27+23 12+53 57+2 2+1 13+45 32+25 26+36 29+1 2+1 8+35 3+1 12+48 14+4 21+1 1+1 35+18",
    "1+25 19+2 63+7 1+1 1+4 1+15 1+10 7+47 38+8 2+2 2+22 1+7 1+2 1+5 3+1 18+1 12+5 30+10 1+1",
    "2+1 1+38 1+1 25+1 1+1 44+53 18+4 20+3 30+48 20+2 1+1 184+47 41+4 36+48 20+1 59+43 13+1",
    "71+27 37+7 185+44 116+64 31+8 2+1 2+8 1+2 1+24 15+1 1+1 94+8 2+39 16+1 1+1 28+1 10+40 7+1",
    "21+1 11+46 19+1 18+73 199+33 31+9 1+37 17+1 49+30 112+7 1+2 1+38 21+1 25+6 1+2 1+32 14+1",
    "327+19 15+1 1+13 1+34 124+1 79+922 102+111 17+196 2636+97 15+1072 17+6 25+3995 5+583",
    "6841+30 1762+569 7+31 17+79 17+30 18+48 16+4 31+21 5+19 432+45 211+64 128+75 5+1 66+13",
    "64+2 1+1 28+6136 8+1238 41+10 8935+4 1+7 1+2 1+291 15+1 29+3 2+1 14+4 8+396 2308+107 5+13",
    "3+9 7+10 5990+85 1+71 1+2 2+1 2+2 2+4 1+12 1+1 1+7 1+65 1+4 2+8 1+7 1+28 1+4 1+5 1+1 3+7",
    "1+340 2+25 1+25 1+31 1+25 1+31 1+25 1+31 1+25 1+31 1+25 1+8 1844+31 6+6 261+62 146+45 10+7",
    "16+1 321+30 18+44 484+28 228+30 2+1 495+7 1+4 1+2 1+15 1+197 59+68 7+1 1204+4 1+27 1+2 1+1",
    "2+1 1+10 1+4 1+1 1+1 6+1 4+1 1+1 1+1 1+3 1+2 1+1 2+1 1+1 1+1 1+1 1+1 1+2 1+1 2+4 1+7 1+4",
    "1+4 1+1 1+10 1+17 5+3 1+5 1+17 4420+42720 32+4154 6+222 2+5762 14+7473 15+622 2466+542",
    "1506+4939 5+4192"]),
  (["ideo", "ideographic"], [
    "12294+2 25+9 14+3 965+6592 64+20992 22784+366 2+106 29962+1 27+6136 8+1238 41+10 9319+396",
    "19716+42720 32+4154 6+222 2+5762 14+7473 15+622 2466+542 1506+4939 5+4192"]),
  (["joinc", "joincontrol"], [
    "8204+2"]),
  (["loe", "logicalorderexception"], [
    "3648+5 123+5 2800+3 2+1 37114+2 2+1 1+2"]),
  (["lower", "lowercase"], [
    "97+26 47+1 10+1 4+1 36+24 1+8 1+1 1+1 1+1 1+1 1+1 1+1 1+1 1+1 1+1 1+1 1+1 1+1 1+1 1+1 1+1",
    "1+1 1+1 1+1 1+1 1+1 1+1 1+1 1+1 1+1 1+1 1+1 1+1 1+2 1+1 1+1 1+1 1+1 1+1 1+1 1+1 1+2 1+1",
    "1+1 1+1 1+1 1+1 1+1 1+1 1+1 1+1 1+1 1+1 1+1 1+1 1+1 1+1 1+1 1+1 1+1 1+1 1+1 1+1 1+1 1+1",
    "2+1 1+1 1+3 2+1 1+1 2+1 3+2 4+1 2+1 3+3 2+1 2+1 1+1 1+1 2+1 1+2 1+1 2+1 3+1 1+1 2+2 2+3",
    "6+1 2+1 2+1 1+1 1+1 1+1 1+1 1+1 1+1 1+1 1+2 1+1 1+1 1+1 1+1 1+1 1+1 1+1 1+1 1+2 2+1 1+1",
    "3+1 1+1 1+1 1+1 1+1 1+1 1+1 1+1 1+1 1+1 1+1 1+1 1+1 1+1 1+1 1+1 1+1 1+1 1+1 1+1 1+1 1+1",
    "1+1 1+1 1+1 1+1 1+1 1+1 1+1 1+7 2+1 2+2 1+1 4+1 1+1 1+1 1+1 1+69 1+36 7+2 30+5 96+1 43+1",
    "1+1 3+1 2+4 18+1 27+35 1+2 3+3 1+1 1+1 1+1 1+1 1+1 1+1 1+1 1+1 1+1 1+1 1+1 1+5 1+1 2+1 2+2",
    "51+48 1+1 1+1 1+1 1+1 1+1 1+1 1+1 1+1 1+1 1+1 1+1 1+1 1+1 1+1 1+1 1+1 1+1 9+1 1+1 1+1 1+1",
    "1+1 1+1 1+1 1+1 1+1 1+1 1+1 1+1 1+1 1+1 1+1 1+1 1+1 1+1 1+1 1+1 1+1 1+1 1+1 1+1 1+1 1+1",
    "1+1 2+1 1+1 1+1 1+1 1+1 1+1 1+2 1+1 1+1 1+1 1+1 1+1 1+1 1+1 1+1 1+1 1+1 1+1 1+1 1+1 1+1",
    "1+1 1+1 1+1 1+1 1+1 1+1 1+1 1+1 1+1 1+1 1+1 1+1 1+1 1+1 1+1 1+1 1+1 1+1 1+1 1+1 1+1 1+1",
    "1+1 1+1 1+1 1+1 1+1 1+1 1+1 1+1 1+1 1+1 1+1 1+1 48+41 2887+43 1+4 760+6 2178+9 1+1 117+192",
    "65+1 1+1 1+1 1+1 1+1 1+1 1+1 1+1 1+1 1+1 1+1 1+1 1+1 1+1 1+1 1+1 1+1 1+1 1+1 1+1 1+1 1+1",
    "1+1 1+1 1+1 1+1 1+1 1+1 1+1 1+1 1+1 1+1 1+1 1+1 1+1 1+1 1+1 1+1 1+1 1+1 1+1 1+1 1+1 1+1",
    "1+1 1+1 1+1 1+1 1+1 1+1 1+1 1+1 1+1 1+1 1+1 1+1 1+1 1+1 1+1 1+1 1+1 1+1 1+1 1+1 1+1 1+1",
    "1+1 1+1 1+1 1+1 1+1 1+1 1+1 1+1 1+9 1+1 1+1 1+1 1+1 1+1 1+1 1+1 1+1 1+1 1+1 1+1 1+1 1+1",
    "1+1 1+1 1+1 1+1 1+1 1+1 1+1 1+1 1+1 1+1 1+1 1+1 1+1 1+1 1+1 1+1 1+1 1+1 1+1 1+1 1+1 1+1",
    "1+1 1+1 1+1 1+1 1+1 1+1 1+1 1+1 1+1 1+1 1+1 1+1 1+1 1+9 8+6 10+8 8+8 8+6 10+8 8+8 8+14 2+8",
    "8+8 8+8 8+5 1+2 6+1 3+3 1+2 8+4 2+2 8+8 10+3 1+2 121+1 13+1 16+13 109+1 3+2 3+1 27+1 4+1",
    "4+1 2+2 8+4 4+1 33+16 4+1 843+26 1862+48 1+1 3+2 1+1 1+1 1+1 4+1 1+2 1+8 3+1 1+1 1+1 1+1",
    "1+1 1+1 1+1 1+1 1+1 1+1 1+1 1+1 1+1 1+1 1+1 1+1 1+1 1+1 1+1 1+1 1+1 1+1 1+1 1+1 1+1 1+1",
    "1+1 1+1 1+1 1+1 1+1 1+1 1+1 1+1 1+1 1+1 1+1 1+1 1+1 1+1 1+1 1+1 1+1 1+1 1+1 1+1 1+1 1+1",
    "1+1 1+2 7+1 1+1 4+1 12+38 1+1 5+1 30995+1 1+1 1+1 1+1 1+1 1+1 1+1 1+1 1+1 1+1 1+1 1+1 1+1",
    "1+1 1+1 1+1 1+1 1+1 1+1 1+1 1+1 1+1 1+1 19+1 1+1 1+1 1+1 1+1 1+1 1+1 1+1 1+1 1+1 1+1 1+1",
    "1+1 1+3 133+1 1+1 1+1 1+1 1+1 1+1 1+3 1+1 1+1 1+1 1+1 1+1 1+1 1+1 1+1 1+1 1+1 1+1 1+1 1+1",
    "1+1 1+1 1+1 1+1 1+1 1+1 1+1 1+1 1+1 1+1 1+1 1+1 1+1 1+1 1+1 1+1 1+1 1+10 1+1 1+1 2+1 1+1",
    "1+1 1+1 1+1 4+1 1+1 2+1 1+3 1+1 1+1 1+1 1+1 1+1 1+1 1+1 1+1 1+1 1+1 5+1 5+1 1+1 1+1 1+1",
    "1+1 1+1 1+1 1+1 4+1 1+1 2+1 3+1 1+1 1+1 1+1 1+1 1+1 22+3 1+1 1+3 821+43 1+14 6+80 20288+7",
    "12+5 1065+26 1229+40 136+36 155+11 1+15 1+7 1+2 451+1 2+3 1+42 1+9 1285+51 125+22 2874+32",
    "21888+32 26010+26 26+7 1+18 26+26 26+4 1+1 1+7 1+11 26+26 26+26 26+26 26+26 26+26 26+26",
    "26+26 26+26 26+28 28+25 1+6 26+25 1+6 26+25 1+6 26+25 1+6 26+25 1+6 1+1 1844+10 1+20 6+6",
    "261+62 2228+34"]),
  (["math"], [
    "43+1 16+3 31+1 29+1 1+1 45+1 4+1 37+1 31+1 728+3 2+1 26+2 2+3 527+3 6669+1 27+3 11+1 3+1",
    "13+1 14+4 21+5 11+5 65+13 4+1 3+2 4+5 18+1 4+1 2+10 1+1 2+6 6+1 3+2 2+2 1+3 1+6 3+14 1+1",
    "68+24 1+6 1+2 4+2 4+32 1+1 6+2 14+268 8+4 20+2 90+1 30+27 1+1 24+1 11+7 445+2 12+10 4+6",
    "4+2 2+2 3+5 14+1 1+1 2+6 11+8 5+2 57+1 1+1 29+4 9+3 336+64 256+512 48+21 2+6 53212+1 823+6",
    "1+1 162+1 16+3 29+1 1+1 29+1 1+1 131+1 6+4 3489+2 50800+85 1+71 1+2 2+1 2+2 2+4 1+12 1+1",
    "1+7 1+65 1+4 2+8 1+7 1+28 1+4 1+5 1+1 3+7 1+340 2+292 2+50 5632+4 1+27 1+2 1+1 2+1 1+10",
    "1+4 1+1 1+1 6+1 4+1 1+1 1+1 1+3 1+2 1+1 2+1 1+1 1+1 1+1 1+1 1+2 1+1 2+4 1+7 1+4 1+4 1+1",
    "1+10 1+17 5+3 1+5 1+17 52+2"]),
  (["mcm", "modifiercombiningmark"], [
    "1620+2 2+1 131+1 6+1 3+2 481+2 1+3 3+1 31+1"]),
  (["nchar", "noncharactercodepoint"], [
    "64976+32 526+2 65534+2 65534+2 65534+2 65534+2 65534+2 65534+2 65534+2 65534+2 65534+2",
    "65534+2 65534+2 65534+2 65534+2 65534+2 65534+2 65534+2"]),
  (["oalpha", "otheralphabetic"], [
    "837+1 29+13 576+14 1+1 1+2 1+2 1+1 72+11 48+13 1+7 16+1 101+7 4+4 2+2 4+1 35+1 30+16",
    "102+11 101+2 3+9 1+3 1+4 106+1 60+12 3+7 6+20 54+2 2+15 1+2 5+3 10+2 29+3 58+7 2+2 2+2",
    "10+1 10+2 29+3 58+5 4+2 2+2 4+1 30+2 3+1 11+3 58+8 1+3 1+2 21+2 22+3 4+3 58+7 2+2 2+2 9+2",
    "10+2 30+1 59+5 3+3 1+3 10+1 40+5 57+7 1+3 1+3 8+2 11+2 29+3 58+7 1+3 1+3 8+2 11+2 15+1",
    "12+4 58+7 1+3 1+3 10+1 10+2 29+3 75+6 1+1 1+8 18+2 61+1 2+7 18+1 99+1 2+6 1+2 16+1 163+19",
    "9+11 1+36 110+12 1+1 2+4 23+4 4+3 1+3 2+7 3+4 13+12 1+1 10+4 1652+2 30+2 30+2 30+2 66+19",
    "188+2 34+1 118+12 4+9 222+5 57+10 2+20 74+2 11+3 49+5 48+15 60+3 30+9 2+2 57+11 50+19",
    "412+34 1729+52 2294+32 30836+8 34+2 354+1 8+1 23+5 88+2 50+16 1+1 57+1 38+5 28+12 45+4",
    "48+12 37+1 67+14 12+1 8+2 45+3 50+1 1+3 2+2 5+1 44+5 5+1 237+8 20275+1 2135+5 1670+3 1+2",
    "5+4 788+4 65+1 321+2 79+1 259+3 53+14 45+2 11+3 45+9 9+1 61+3 36+12 18+2 57+3 48+13 14+2",
    "92+9 2+1 6+1 2+1 157+10 23+4 58+7 2+2 2+2 10+1 10+2 84+9 1+1 2+1 1+4 1+2 103+13 1+3 106+18",
    "237+7 2+7 29+2 82+15 1+1 106+11 103+14 257+13 247+6 1+2 2+2 3+1 1+1 142+7 2+6 4+1 28+10",
    "42+5 1+4 18+11 46+14 407+8 1+7 83+22 1+14 122+6 3+1 1+2 1+3 1+1 3+1 66+5 1+2 1+4 348+4 9+2",
    "1+1 48+7 3+3 16861+17 3616+1 1+55 7+4 93+2 19628+1 9057+7 1+17 2+7 1+2 1+5 100+1 2231+1",
    "2024+26 6+26 6+26"]),
  (["odi", "otherdefaultignorablecodepoint"], [
    "847+1 3599+2 1619+2 2223+1 4350+1 52795+1 79+9 851975+1 1+30 96+128 240+3600"]),
  (["ogrext", "othergraphemeextend"], [
    "2494+1 24+1 358+1 24+1 102+1 24+1 232+1 1+1 4+2 1+2 9+2 103+1 24+1 119+1 15+1 2357+1 30+1",
    "1024+1 5+1 1+1 5+2 101+1 71+2 1048+1 4129+2 31011+1 108+1 21981+2 4640+1 116+1 264+1 14+1",
    "9+1 96+1 9+1 2+1 1+3 5+1 224+1 12+1 241+1 262+1 633+1 12+1 1539+1 20654+2 24947+2 6+6",
    "798381+96"]),
  (["oidc", "otheridcontinue"], [
    "183+1 719+1 4065+9 1640+1 1585+2 4333+1 52841+1"]),
  (["oids", "otheridstart"], [
    "6277+2 2193+1 21+1 3948+2"]),
  (["olower", "otherlowercase"], [
    "170+1 15+1 501+9 7+2 30+5 96+1 52+1 3457+1 3119+63 13+1 34+37 689+1 13+1 16+13 211+16",
    "848+26 1938+2 31262+2 210+1 129+3 3+2 866+4 9+1 23574+1 2+3 1+42 1+9 55413+62"]),
  (["omath", "othermath"], [
    "94+1 881+3 2+1 26+2 2+2 7200+1 27+3 11+1 32+4 24+2 14+2 65+13 4+1 3+2 4+5 18+1 4+1 2+10",
    "1+1 3+5 6+1 3+2 2+2 1+3 1+6 3+4 5+5 75+5 2+4 1+2 1+2 1+1 1+5 2+2 4+2 4+18 2+2 1+1 1+7 1+1",
    "6+2 290+4 168+2 1+1 24+1 17+1 445+2 12+9 5+5 5+2 2+2 3+5 14+1 1+1 2+6 24+2 57+1 1+1 29+4",
    "9+2 342+2 31+10 403+22 63+4 32+2 54371+1 1+1 4+1 211+1 1+1 54465+85 1+71 1+2 2+1 2+2 2+4",
    "1+12 1+1 1+7 1+65 1+4 2+8 1+7 1+28 1+4 1+5 1+1 3+7 1+340 2+25 1+25 1+31 1+25 1+31 1+25",
    "1+31 1+25 1+31 1+25 1+8 2+50 5632+4 1+27 1+2 1+1 2+1 1+10 1+4 1+1 1+1 6+1 4+1 1+1 1+1 1+3",
    "1+2 1+1 2+1 1+1 1+1 1+1 1+1 1+2 1+1 2+4 1+7 1+4 1+4 1+1 1+10 1+17 5+3 1+5 1+17"]),
  (["oupper", "otheruppercase"], [
    "8544+16 838+26 117856+26 6+26 6+26"]),
  (["patsyn", "patternsyntax"], [
    "33+15 10+7 26+4 1+1 26+4 34+7 1+1 1+2 1+1 1+2 4+1 4+1 3+1 23+1 31+1 7960+24 8+15 2+19 1+10",
    "305+720 160+630 30+1132 512+128 385+3 4+25 15+1 52493+2 261+2"]),
  (["patws", "patternwhitespace"], [
    "9+5 18+1 100+1 8072+2 24+2"]),
  (["pcm", "prependedconcatenationmark"], [
    "1536+6 215+1 49+1 384+2 80+1 67546+1 15+1"]),
  (["qmark", "quotationmark"], [
    "34+1 4+1 131+1 15+1 8028+8 25+2 3591+1 457+4 13+3 52769+4 189+1 4+1 90+2"]),
  (["radical"], [
    "11904+26 1+89 12+214"]),
  (["ri", "regionalindicator"], [
    "127462+26"]),
  (["sterm", "sentenceterminal"], [
    "33+1 12+1 16+1 1353+1 147+3 180+1 43+3 246+1 61+1 1+1 3+2 293+2 1764+2 790+1 4+2 773+1",
    "198+2 157+2 45+1 5+1 314+2 354+4 162+2 10+2 2+2 29+3 187+2 65+2 932+1 23+2 9+3 3247+3",
    "306+1 13+1 22+2 429+1 29948+1 270+2 227+1 3+1 382+2 86+2 95+1 152+2 147+3 144+2 249+1",
    "21030+1 2+2 59+1 3+2 169+1 12+1 16+1 65+1 2804+2 1277+5 44+4 189+2 117+4 127+3 129+2 6+1",
    "16+2 88+2 1+2 108+1 298+2 117+2 373+2 5+15 105+2 249+3 517+1 1+1 251+2 87+2 420+2 692+2",
    "74+2 19241+2 133+1 65+2 11+1 553+2 296+1 19974+1 7656+1"]),
  (["sd", "softdotted"], [
    "105+2 196+1 281+1 30+1 52+1 20+1 320+1 98+1 1+1 6409+1 51+1 13+1 3+1 132+1 157+1 421+1",
    "214+2 2866+1 108453+2 50+2 50+2 50+2 50+2 50+2 50+2 50+2 50+2 50+2 50+2 50+2 50+2 2182+1",
    "305+2 26+1"]),
  (["term", "terminalpunctuation"], [
    "33+1 10+1 1+1 11+2 3+1 830+1 8+1 513+1 57+1 72+1 14+1 1+3 180+1 43+11 1+1 235+2 54+6 1+8",
    "31+1 261+2 1268+2 172+1 4+6 311+2 789+8 773+1 124+3 71+2 157+3 3+1 39+4 2+2 314+2 354+4",
    "162+2 10+2 1+3 29+3 187+5 62+2 932+1 23+2 9+3 3247+3 306+1 13+1 4+1 10+1 1+2 3+2 428+2",
    "29947+2 269+3 227+5 382+2 86+2 95+1 151+3 147+3 127+1 16+2 249+1 21030+1 2+2 57+3 1+4",
    "169+1 10+1 1+1 11+2 3+1 65+1 2+1 1082+1 48+1 1158+1 199+1 310+2 152+6 68+6 89+4 952+5 44+4",
    "189+7 112+4 127+3 129+2 6+1 16+2 88+5 108+1 298+2 117+3 12+2 358+4 3+15 105+2 249+3 517+1",
    "1+1 251+2 87+2 4+2 414+3 45+1 645+2 74+2 1323+5 17913+2 133+1 65+3 10+1 553+2 295+2",
    "19974+1 7655+4"]),
  (["uideo", "unifiedideograph"], [
    "13312+6592 64+20992 23054+2 1+1 1+2 10+1 1+1 1+2 2+3 67030+42720 32+4154 6+222 2+5762",
    "14+7473 15+622 4514+4939 5+4192"]),
  (["upper", "uppercase"], [
    "65+26 101+23 1+7 33+1 1+1 1+1 1+1 1+1 1+1 1+1 1+1 1+1 1+1 1+1 1+1 1+1 1+1 1+1 1+1 1+1 1+1",
    "1+1 1+1 1+1 1+1 1+1 1+1 1+1 1+1 1+1 1+1 2+1 1+1 1+1 1+1 1+1 1+1 1+1 1+1 2+1 1+1 1+1 1+1",
    "1+1 1+1 1+1 1+1 1+1 1+1 1+1 1+1 1+1 1+1 1+1 1+1 1+1 1+1 1+1 1+1 1+1 1+1 1+1 1+2 1+1 1+1",
    "3+2 1+1 1+2 1+3 2+4 1+2 1+3 3+2 1+2 1+1 1+1 1+2 1+1 2+1 1+2 1+3 1+1 1+2 3+1 7+1 2+1 2+1",
    "2+1 1+1 1+1 1+1 1+1 1+1 1+1 1+1 2+1 1+1 1+1 1+1 1+1 1+1 1+1 1+1 1+1 2+1 2+1 1+3 1+1 1+1",
    "1+1 1+1 1+1 1+1 1+1 1+1 1+1 1+1 1+1 1+1 1+1 1+1 1+1 1+1 1+1 1+1 1+1 1+1 1+1 1+1 1+1 1+1",
    "1+1 1+1 1+1 1+1 1+1 7+2 1+2 2+1 1+4 1+1 1+1 1+1 1+1 289+1 1+1 3+1 8+1 6+1 1+3 1+1 1+2 1+17",
    "1+9 35+1 2+3 3+1 1+1 1+1 1+1 1+1 1+1 1+1 1+1 1+1 1+1 1+1 1+1 5+1 2+1 1+2 2+51 48+1 1+1 1+1",
    "1+1 1+1 1+1 1+1 1+1 1+1 1+1 1+1 1+1 1+1 1+1 1+1 1+1 1+1 9+1 1+1 1+1 1+1 1+1 1+1 1+1 1+1",
    "1+1 1+1 1+1 1+1 1+1 1+1 1+1 1+1 1+1 1+1 1+1 1+1 1+1 1+1 1+1 1+1 1+1 1+1 1+1 1+2 1+1 1+1",
    "1+1 1+1 1+1 1+1 2+1 1+1 1+1 1+1 1+1 1+1 1+1 1+1 1+1 1+1 1+1 1+1 1+1 1+1 1+1 1+1 1+1 1+1",
    "1+1 1+1 1+1 1+1 1+1 1+1 1+1 1+1 1+1 1+1 1+1 1+1 1+1 1+1 1+1 1+1 1+1 1+1 1+1 1+1 1+1 1+1",
    "1+1 1+1 1+1 1+1 1+1 1+1 1+1 1+1 2+38 2889+38 1+1 5+1 722+86 2195+1 6+43 2+3 320+1 1+1 1+1",
    "1+1 1+1 1+1 1+1 1+1 1+1 1+1 1+1 1+1 1+1 1+1 1+1 1+1 1+1 1+1 1+1 1+1 1+1 1+1 1+1 1+1 1+1",
    "1+1 1+1 1+1 1+1 1+1 1+1 1+1 1+1 1+1 1+1 1+1 1+1 1+1 1+1 1+1 1+1 1+1 1+1 1+1 1+1 1+1 1+1",
    "1+1 1+1 1+1 1+1 1+1 1+1 1+1 1+1 1+1 1+1 1+1 1+1 1+1 1+1 1+1 1+1 1+1 1+1 1+1 1+1 1+1 1+1",
    "1+1 1+1 1+1 1+1 1+1 1+1 9+1 1+1 1+1 1+1 1+1 1+1 1+1 1+1 1+1 1+1 1+1 1+1 1+1 1+1 1+1 1+1",
    "1+1 1+1 1+1 1+1 1+1 1+1 1+1 1+1 1+1 1+1 1+1 1+1 1+1 1+1 1+1 1+1 1+1 1+1 1+1 1+1 1+1 1+1",
    "1+1 1+1 1+1 1+1 1+1 1+1 1+1 1+1 1+1 1+1 1+1 9+8 8+6 10+8 8+8 8+6 11+1 1+1 1+1 1+1 8+8 72+4",
    "12+4 12+4 12+5 11+4 262+1 4+1 3+3 2+3 2+1 3+5 6+1 1+1 1+1 1+4 2+4 10+2 5+1 26+16 19+1",
    "818+26 1840+48 48+1 1+3 2+1 1+1 1+1 1+4 1+1 2+1 8+3 1+1 1+1 1+1 1+1 1+1 1+1 1+1 1+1 1+1",
    "1+1 1+1 1+1 1+1 1+1 1+1 1+1 1+1 1+1 1+1 1+1 1+1 1+1 1+1 1+1 1+1 1+1 1+1 1+1 1+1 1+1 1+1",
    "1+1 1+1 1+1 1+1 1+1 1+1 1+1 1+1 1+1 1+1 1+1 1+1 1+1 1+1 1+1 1+1 1+1 1+1 8+1 1+1 4+1",
    "31053+1 1+1 1+1 1+1 1+1 1+1 1+1 1+1 1+1 1+1 1+1 1+1 1+1 1+1 1+1 1+1 1+1 1+1 1+1 1+1 1+1",
    "1+1 1+1 19+1 1+1 1+1 1+1 1+1 1+1 1+1 1+1 1+1 1+1 1+1 1+1 1+1 1+1 135+1 1+1 1+1 1+1 1+1 1+1",
    "1+1 3+1 1+1 1+1 1+1 1+1 1+1 1+1 1+1 1+1 1+1 1+1 1+1 1+1 1+1 1+1 1+1 1+1 1+1 1+1 1+1 1+1",
    "1+1 1+1 1+1 1+1 1+1 1+1 1+1 1+1 1+1 1+1 10+1 1+1 1+2 1+1 1+1 1+1 1+1 4+1 1+1 2+1 1+1 3+1",
    "1+1 1+1 1+1 1+1 1+1 1+1 1+1 1+1 1+1 1+5 1+5 1+1 1+1 1+1 1+1 1+1 1+1 1+1 1+4 1+1 1+2 3+1",
    "5+1 1+1 1+1 1+1 24+1 22315+26 1221+40 136+36 156+11 1+15 1+7 1+2 1770+51 157+22 2874+32",
    "21888+32 26016+26 26+26 26+26 26+1 1+2 2+1 2+2 2+4 1+8 26+26 26+2 1+4 2+8 1+7 27+2 1+4 1+5",
    "1+1 3+7 27+26 26+26 26+26 26+26 26+26 26+26 30+25 33+25 33+25 33+25 33+25 33+1 4405+34",
    "2062+26 6+26 6+26"]),
  (["vs", "variationselector"], [
    "6155+3 1+1 58864+16 852720+240"]),
  (["wspace", "whitespace", "space"], [
    "9+5 18+1 100+1 26+1 5599+1 2431+11 29+2 5+1 47+1 4000+1"]),
  (["xidc", "xidcontinue"], [
    "48+10 7+26 4+1 1+26 47+1 10+1 1+1 2+1 5+23 1+31 1+458 4+12 14+5 7+1 1+1 17+117 1+2 3+3 1+1",
    "6+5 1+1 1+20 1+83 1+139 1+5 2+166 1+38 2+1 6+41 8+45 1+1 1+2 1+2 1+1 8+27 4+4 29+11 5+74",
    "4+102 1+8 2+10 1+19 2+1 16+59 2+101 14+54 4+1 2+1 2+46 18+28 4+11 5+24 1+6 8+75 1+129 2+10",
    "1+19 1+8 2+2 2+22 1+7 1+1 3+4 2+9 2+2 2+4 8+1 4+2 1+5 2+12 10+1 1+1 2+3 1+6 4+2 2+22 1+7",
    "1+2 1+2 1+2 2+1 1+5 4+2 2+3 3+1 7+4 1+1 7+16 11+3 1+9 1+3 1+22 1+7 1+2 1+5 2+10 1+3 1+3",
    "2+1 15+4 2+10 9+7 1+3 1+8 2+2 2+22 1+7 1+2 1+5 2+9 2+2 2+3 7+3 4+2 1+5 2+10 1+1 16+2 1+6",
    "3+3 1+4 3+2 1+1 1+2 3+2 3+3 3+12 4+5 3+3 1+4 2+1 6+1 14+10 16+13 1+3 1+23 1+16 2+9 1+3 1+4",
    "7+2 1+3 2+1 2+4 2+10 16+4 1+8 1+3 1+23 1+10 1+5 2+9 1+3 1+4 7+2 6+2 1+4 2+10 1+3 12+13 1+3",
    "1+51 1+3 1+5 5+4 7+5 2+10 10+6 1+3 1+18 3+24 1+9 1+1 2+7 3+1 4+6 1+1 1+8 6+10 2+2 13+58",
    "5+15 1+10 39+2 1+1 1+5 1+24 1+1 1+23 2+5 1+1 1+7 1+10 2+4 32+1 23+2 6+10 11+1 1+1 1+1 4+10",
    "1+36 4+20 1+18 1+36 9+1 57+74 6+78 2+38 1+1 5+1 2+43 1+333 1+4 2+7 1+1 1+4 2+41 1+4 2+33",
    "1+4 2+7 1+1 1+4 2+15 1+57 1+4 2+67 2+3 9+9 14+16 16+86 2+6 3+620 2+17 1+26 5+75 3+11 7+22",
    "9+22 11+20 12+13 1+3 1+2 12+84 3+1 4+2 2+10 33+3 1+11 6+89 7+43 5+70 10+31 1+12 4+12 10+40",
    "2+5 11+44 4+26 6+11 37+28 4+63 1+29 2+11 6+10 13+1 8+14 1+16 49+77 3+10 17+9 12+116 12+56",
    "8+10 3+49 2+11 5+43 2+3 16+3 1+39 5+534 2+6 2+38 2+6 2+8 1+1 1+1 1+1 1+31 2+53 1+7 1+1 3+3",
    "1+7 3+4 2+6 4+13 5+3 1+7 15+2 49+2 19+1 28+1 13+1 16+13 51+13 4+1 3+12 17+1 4+1 2+10 1+1",
    "2+6 6+1 1+1 1+1 1+16 2+4 5+5 4+1 17+41 2679+229 6+9 12+38 1+1 5+1 2+56 7+1 15+24 9+7 1+7",
    "1+7 1+7 1+7 1+7 1+7 1+7 1+32 517+3 25+15 1+5 2+5 4+86 2+2 2+3 1+95 5+43 1+94 17+32 48+16",
    "512+6592 64+22157 67+46 2+269 3+28 20+48 4+10 1+115 37+9 2+103 2+67 2+2 1+1 1+8 21+54 4+1",
    "19+52 12+70 10+10 6+24 3+1 1+49 2+36 12+29 3+65 14+11 6+31 1+55 9+14 2+10 6+23 3+73 24+3",
    "2+16 2+5 10+6 2+6 2+6 9+7 1+7 1+43 1+14 6+123 1+2 2+10 6+11172 12+23 4+49 8452+366 2+106",
    "38+7 12+5 5+12 1+13 1+5 1+1 1+2 1+2 1+108 33+139 6+218 18+64 2+54 40+10 6+16 16+16 3+2",
    "24+3 33+1 1+1 3+1 1+1 1+1 1+1 1+126 19+10 7+26 4+1 1+26 10+90 3+6 2+6 2+6 2+3 35+12 1+26",
    "1+19 1+2 1+15 2+14 34+123 69+53 136+1 130+29 3+49 15+1 31+32 13+30 5+43 5+30 2+36 4+8 1+5",
    "42+158 2+10 6+36 4+36 4+40 8+52 12+11 1+15 1+7 1+2 1+11 1+15 1+7 1+2 3+52 12+311 9+22 10+8",
    "24+6 1+42 1+9 69+6 2+1 1+44 1+2 3+1 2+23 10+23 9+31 65+19 1+2 10+22 10+26 70+56 6+2 64+4",
    "1+2 5+8 1+3 1+29 2+3 4+1 32+29 3+29 35+8 1+30 25+54 10+22 10+19 13+18 110+73 55+51 13+51",
    "13+40 8+10 6+38 3+5 1+23 250+42 1+2 3+2 16+3 55+33 10+1 8+33 31+22 42+21 27+23 9+71 31+16",
    "9+60 7+1 13+25 7+10 6+53 1+10 4+4 8+36 2+1 9+69 4+4 1+13 1+1 35+18 1+37 6+4 62+7 1+1 1+4",
    "1+15 1+10 7+59 5+10 6+4 1+8 2+2 2+22 1+7 1+2 1+5 1+10 2+2 2+3 2+1 6+1 5+7 2+7 3+5 11+10",
    "1+1 2+1 1+38 1+10 1+1 2+1 1+4 1+8 13+2 29+75 5+10 4+4 30+70 1+1 8+10 166+54 2+9 23+6 34+65",
    "3+1 11+10 38+57 7+10 6+20 28+27 2+15 4+10 6+7 185+59 101+74 21+8 2+1 2+8 1+2 1+30 1+2 2+9",
    "12+10 70+8 2+46 2+8 1+2 27+63 8+1 8+74 3+1 18+73 199+33 15+10 6+9 1+45 1+9 15+10 24+30",
    "2+22 1+14 73+7 1+2 1+44 3+1 1+2 1+9 8+10 6+6 1+2 1+37 1+2 1+6 7+10 310+23 9+17 1+41 3+5",
    "13+11 85+1 79+922 102+111 17+196 2636+97 15+1072 16+22 10+3995 5+583 6841+58 1734+569 7+31",
    "1+10 6+79 1+10 6+30 2+5 11+55 9+4 12+10 9+21 5+19 432+45 3+10 198+64 128+75 4+57 7+17 64+2",
    "1+2 11+2 14+6136 8+1238 41+10 8935+4 1+7 1+2 1+291 15+1 29+3 2+1 14+4 8+396 2308+107 5+13",
    "3+9 7+10 3+2 4177+10 518+46 2+23 542+5 3+6 8+8 2+7 30+4 148+3 443+85 1+71 1+2 2+1 2+2 2+4",
    "1+12 1+1 1+7 1+65 1+4 2+8 1+7 1+28 1+4 1+5 1+1 3+7 1+340 2+25 1+25 1+31 1+25 1+31 1+25",
    "1+31 1+25 1+31 1+25 1+8 2+50 512+55 4+50 8+1 14+1 22+5 1+15 1104+31 6+6 213+7 1+17 2+7 1+2",
    "1+5 5+62 33+1 112+45 3+14 2+10 4+1 321+31 17+58 470+42 214+43 485+7 1+4 1+2 1+15 1+197",
    "11+7 41+76 4+10 1190+4 1+27 1+2 1+1 2+1 1+10 1+4 1+1 1+1 6+1 4+1 1+1 1+1 1+3 1+2 1+1 2+1",
    "1+1 1+1 1+1 1+1 1+2 1+1 2+4 1+7 1+4 1+4 1+1 1+10 1+17 5+3 1+5 1+17 3380+10 1030+42720",
    "32+4154 6+222 2+5762 14+7473 15+622 2466+542 1506+4939 5+4192 712016+240"]),
  (["xids", "xidstart"], [
    "65+26 6+26 47+1 10+1 4+1 5+23 1+31 1+458 4+12 14+5 7+1 1+1 129+5 1+2 3+3 1+1 6+1 1+3 1+1",
    "1+20 1+83 1+139 8+166 1+38 2+1 6+41 71+27 4+4 45+43 35+2 1+99 1+1 15+2 7+2 10+3 2+1 16+1",
    "1+30 29+89 11+1 24+33 9+2 4+1 5+22 4+1 9+1 3+1 23+25 7+11 5+24 1+6 17+42 58+54 3+1 18+1",
    "7+10 15+16 4+8 2+2 2+22 1+7 1+1 3+4 3+1 16+1 13+2 1+3 14+2 10+1 8+6 4+2 2+22 1+7 1+2 1+2",
    "1+2 31+4 1+1 19+3 16+9 1+3 1+22 1+7 1+2 1+5 3+1 18+1 15+2 23+1 11+8 2+2 2+22 1+7 1+2 1+5",
    "3+1 30+2 1+3 15+1 17+1 1+6 3+3 1+4 3+2 1+1 1+2 3+2 3+3 3+12 22+1 52+8 1+3 1+23 1+16 3+1",
    "26+3 2+1 2+2 30+1 4+8 1+3 1+23 1+10 1+5 3+1 31+2 1+2 15+2 17+9 1+3 1+41 2+1 16+1 5+3 8+3",
    "24+6 5+18 3+24 1+9 1+1 2+7 58+48 1+1 13+7 58+2 1+1 1+5 1+24 1+1 1+10 1+1 10+1 2+5 1+1 21+4",
    "32+1 63+8 1+36 27+5 115+43 20+1 16+6 4+4 3+1 3+2 7+3 4+13 12+1 17+38 1+1 5+1 2+43 1+333",
    "1+4 2+7 1+1 1+4 2+41 1+4 2+33 1+4 2+7 1+1 1+4 2+15 1+57 1+4 2+67 37+16 16+86 2+6 3+620",
    "2+17 1+26 5+75 3+11 7+18 13+19 14+18 14+13 1+3 15+52 35+1 4+1 67+89 7+41 1+1 5+70 10+31",
    "49+30 2+5 11+44 4+26 54+23 9+53 82+1 93+47 17+8 54+30 13+2 10+44 26+36 41+3 10+36 2+11",
    "5+43 2+3 41+4 1+6 1+2 3+1 5+192 64+278 2+6 2+38 2+6 2+8 1+1 1+1 1+1 1+31 2+53 1+7 1+1 3+3",
    "1+7 3+4 2+6 4+13 5+3 1+7 116+1 13+1 16+13 101+1 4+1 2+10 1+1 2+6 6+1 1+1 1+1 1+16 2+4 5+5",
    "4+1 17+41 2679+229 6+4 3+2 12+38 1+1 5+1 2+56 7+1 16+23 9+7 1+7 1+7 1+7 1+7 1+7 1+7 1+7",
    "550+3 25+9 7+5 2+5 4+86 6+3 1+90 1+4 5+43 1+94 17+32 48+16 512+6592 64+22157 67+46 2+269",
    "3+16 10+2 20+47 16+31 2+80 39+9 2+103 2+67 2+2 1+1 1+8 21+16 1+3 1+4 1+23 29+52 14+50 62+6",
    "3+1 1+2 11+28 10+23 25+29 7+47 28+1 16+5 1+10 10+5 1+41 23+3 1+8 20+23 3+1 3+50 1+1 3+2",
    "2+5 2+1 1+1 24+3 2+11 7+3 12+6 2+6 2+6 9+7 1+7 1+43 1+14 6+115 29+11172 12+23 4+49",
    "8452+366 2+106 38+7 12+5 5+1 1+10 1+13 1+5 1+1 1+2 1+2 1+108 33+139 6+218 18+64 2+54 40+10",
    "119+1 1+1 3+1 1+1 1+1 1+1 1+126 36+26 6+26 11+56 2+31 3+6 2+6 2+6 2+3 35+12 1+26 1+19 1+2",
    "1+15 2+14 34+123 69+53 267+29 3+49 47+32 13+30 5+38 10+30 2+36 4+8 1+5 42+158 18+36 4+36",
    "4+40 8+52 12+11 1+15 1+7 1+2 1+11 1+15 1+7 1+2 3+52 12+311 9+22 10+8 24+6 1+42 1+9 69+6",
    "2+1 1+44 1+2 3+1 2+23 10+23 9+31 65+19 1+2 10+22 10+26 70+56 6+2 64+1 15+4 1+3 1+29 42+29",
    "3+29 35+8 1+28 27+54 10+22 10+19 13+18 110+73 55+51 13+51 13+36 38+28 9+23 250+42 6+2 16+3",
    "59+29 10+1 8+22 42+18 46+21 27+23 12+53 57+2 2+1 13+45 32+25 26+36 29+1 2+1 8+35 3+1 12+48",
    "14+4 21+1 1+1 35+18 1+25 19+2 63+7 1+1 1+4 1+15 1+10 7+47 38+8 2+2 2+22 1+7 1+2 1+5 3+1",
    "18+1 12+5 30+10 1+1 2+1 1+38 1+1 25+1 1+1 44+53 18+4 20+3 30+48 20+2 1+1 184+47 41+4 36+48",
    "20+1 59+43 13+1 71+27 37+7 185+44 116+64 31+8 2+1 2+8 1+2 1+24 15+1 1+1 94+8 2+39 16+1 1+1",
    "28+1 10+40 7+1 21+1 11+46 19+1 18+73 199+33 31+9 1+37 17+1 49+30 112+7 1+2 1+38 21+1 25+6",
    "1+2 1+32 14+1 327+19 15+1 1+13 1+34 124+1 79+922 102+111 17+196 2636+97 15+1072 17+6",
    "25+3995 5+583 6841+30 1762+569 7+31 17+79 17+30 18+48 16+4 31+21 5+19 432+45 211+64 128+75",
    "5+1 66+13 64+2 1+1 28+6136 8+1238 41+10 8935+4 1+7 1+2 1+291 15+1 29+3 2+1 14+4 8+396",
    "2308+107 5+13 3+9 7+10 5990+85 1+71 1+2 2+1 2+2 2+4 1+12 1+1 1+7 1+65 1+4 2+8 1+7 1+28 1+4",
    "1+5 1+1 3+7 1+340 2+25 1+25 1+31 1+25 1+31 1+25 1+31 1+25 1+31 1+25 1+8 1844+31 6+6 261+62",
    "146+45 10+7 16+1 321+30 18+44 484+28 228+30 2+1 495+7 1+4 1+2 1+15 1+197 59+68 7+1 1204+4",
    "1+27 1+2 1+1 2+1 1+10 1+4 1+1 1+1 6+1 4+1 1+1 1+1 1+3 1+2 1+1 2+1 1+1 1+1 1+1 1+1 1+2 1+1",
    "2+4 1+7 1+4 1+4 1+1 1+10 1+17 5+3 1+5 1+17 4420+42720 32+4154 6+222 2+5762 14+7473 15+622",
    "2466+542 1506+4939 5+4192"])]

/-- The loose names of the properties that are not binary, or that have no table here, with blanks
between them. -/
def otherPropertyRows : List String := [
  "age bc bidiclass bidimirroringglyph bidipairedbracket bidipairedbrackettype blk block bmg",
  "bpb bpt canonicalcombiningclass casefolding ccc ce cf changeswhennfkccasefolded",
  "cjkaccountingnumeric cjkcompatibilityvariant cjkiicore cjkirggsource cjkirghsource",
  "cjkirgjsource cjkirgkpsource cjkirgksource cjkirgmsource cjkirgssource cjkirgtsource",
  "cjkirguksource cjkirgusource cjkirgvsource cjkmandarin cjkothernumeric cjkprimarynumeric",
  "cjkrsunicode cjktotalstrokes cjkunihancore2020 compex compositionexclusion cwkcf",
  "decompositionmapping decompositiontype dm dt ea eastasianwidth equideo",
  "equivalentunifiedideograph expandsonnfc expandsonnfd expandsonnfkc expandsonnfkd fcnfkc",
  "fcnfkcclosure fullcompositionexclusion gc gcb generalcategory graphemeclusterbreak",
  "hangulsyllabletype hst incb indicconjunctbreak indicpositionalcategory indicsyllabiccategory",
  "inpc insc isc jamoshortname jg joininggroup joiningtype jsn jt kaccountingnumeric",
  "kcompatibilityvariant kehcat kehcore kehdesc kehfunc kehfval kehhg kehifao kehjsesh",
  "kehnomirror kehnorotate kehunik kiicore kirggsource kirghsource kirgjsource kirgkpsource",
  "kirgksource kirgmsource kirgssource kirgtsource kirguksource kirgusource kirgvsource",
  "kmandarin kothernumeric kprimarynumeric krsunicode ktotalstrokes kunihancore2020 lb lc",
  "linebreak lowercasemapping na na1 name namealias nfcqc nfcquickcheck nfdqc nfdquickcheck",
  "nfkccasefold nfkccf nfkcqc nfkcquickcheck nfkcscf nfkcsimplecasefold nfkdqc nfkdquickcheck",
  "nt numerictype numericvalue nv ocomment sb sc scf script scriptextensions scx sentencebreak",
  "sfc simplecasefolding simplelowercasemapping simpletitlecasemapping simpleuppercasemapping",
  "slc stc suc tc titlecasemapping uc unicode1name unicoderadicalstroke uppercasemapping urs",
  "verticalorientation vo wb wordbreak xonfc xonfd xonfkc xonfkd"]

end TextTemplate.Unicode
