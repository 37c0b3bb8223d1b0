/-!
# Text boundaries, as data

The classes of characters that decide where graphemes, words and sentences end, in version 16.0 of
the Unicode character database: the names of each class (in the loose form) and its code points, as
distances and lengths the way RangeTable.decode reads them. -/

namespace TextTemplate.Unicode

def graphemeBreakRows : List (List String × List String) := [
  (["cn", "control"], [
    "0+10 1+2 1+18 95+33 13+1 1390+1 4593+1 2044+1 2+2 24+7 49+16 56975+1 240+12 13364+16",
    "34912+4 5327+8 798341+32 96+128 240+3600"]),
  (["cr"], [
    "13+1"]),
  (["ex", "extend"], [
    "768+112 275+7 263+45 1+1 1+2 1+2 1+1 72+11 48+21 16+1 101+7 2+6 2+2 1+4 35+1 30+27 91+11",
    "58+9 9+1 24+4 1+9 1+3 1+5 43+3 59+9 42+24 1+32 55+1 1+1 4+8 4+1 3+7 10+2 29+1 58+1 1+1 2+4",
    "8+1 9+1 10+2 26+1 2+2 57+1 4+2 4+2 2+3 3+1 30+2 3+1 11+2 57+1 4+5 1+2 4+1 20+2 22+6 1+1",
    "58+1 1+2 1+4 8+1 7+3 10+2 30+1 59+1 1+1 12+1 9+1 40+1 3+1 55+1 1+3 5+3 1+4 7+2 11+2 29+1",
    "58+1 2+2 1+1 3+3 1+4 7+2 11+2 28+2 57+2 1+1 2+4 8+1 9+1 10+2 29+1 72+1 4+1 2+3 1+1 8+1",
    "81+1 2+7 12+8 98+1 2+9 11+7 73+2 27+1 1+1 1+1 55+14 1+5 1+2 5+11 1+36 9+1 102+4 1+6 1+2",
    "2+2 25+2 4+3 16+4 13+1 2+2 6+1 15+1 703+3 946+4 28+3 29+2 30+2 64+2 1+7 8+1 2+11 9+1 45+3",
    "1+1 117+2 34+1 118+3 4+2 9+1 6+3 219+2 2+1 58+1 1+7 1+1 1+1 2+8 6+10 2+1 48+31 49+4 48+10",
    "4+3 38+9 12+2 32+4 2+6 56+1 1+2 3+1 1+5 56+8 2+2 152+3 1+13 1+7 4+1 6+1 3+2 198+64 524+1",
    "195+33 3070+3 141+1 96+32 554+6 105+2 30164+4 1+10 32+2 80+2 272+1 3+1 4+1 25+2 5+1 151+2",
    "26+18 13+1 38+8 25+11 1+1 44+3 48+1 2+4 2+2 2+1 36+1 67+6 2+2 2+2 12+1 8+1 47+1 51+1 1+3",
    "2+2 5+2 1+1 42+2 8+1 238+1 2+1 4+1 20272+1 737+16 16+16 366+2 605+1 226+1 149+5 1670+3 1+2",
    "5+4 40+3 4+1 165+2 573+4 65+5 317+2 79+4 70+11 49+4 123+1 54+15 41+1 2+2 10+3 49+4 2+2 7+1",
    "61+3 36+5 1+8 62+1 12+2 52+9 1+1 8+4 2+1 95+3 2+4 6+1 2+1 157+1 3+8 21+2 57+2 1+1 1+1 12+1",
    "9+1 14+7 3+5 67+1 2+6 1+1 2+1 1+3 4+3 1+1 14+2 85+8 2+3 1+1 23+1 81+1 2+6 1+1 2+1 1+2 1+2",
    "235+1 2+4 6+2 1+2 27+2 85+8 2+1 1+2 106+1 1+1 2+8 101+1 1+1 2+4 1+5 259+9 1+2 245+1 10+4",
    "4+1 144+4 2+2 4+1 32+10 40+6 2+4 8+1 9+6 2+3 46+13 1+2 406+7 1+6 1+1 82+22 2+7 1+2 1+2",
    "122+6 3+1 1+2 1+7 1+1 72+2 3+1 1+1 347+2 11+2 52+5 5+3 23+1 5349+1 6+15 11464+12 3+3",
    "2496+5 59+7 1048+1 63+4 81+1 11+2 19627+2 4705+46 2+23 542+5 3+6 8+8 2+7 30+4 148+3",
    "1979+55 4+50 8+1 14+1 22+5 1+15 1360+7 1+17 2+7 1+2 1+5 100+1 160+7 375+1 61+4 508+4 254+2",
    "736+7 109+7 2736+5 789536+96 128+240"]),
  (["l"], [
    "4352+96 38912+29"]),
  (["lf"], [
    "10+1"]),
  (["lv"], [
    "44032+1 27+1 27+1 27+1 27+1 27+1 27+1 27+1 27+1 27+1 27+1 27+1 27+1 27+1 27+1 27+1 27+1",
    "27+1 27+1 27+1 27+1 27+1 27+1 27+1 27+1 27+1 27+1 27+1 27+1 27+1 27+1 27+1 27+1 27+1 27+1",
    "27+1 27+1 27+1 27+1 27+1 27+1 27+1 27+1 27+1 27+1 27+1 27+1 27+1 27+1 27+1 27+1 27+1 27+1",
    "27+1 27+1 27+1 27+1 27+1 27+1 27+1 27+1 27+1 27+1 27+1 27+1 27+1 27+1 27+1 27+1 27+1 27+1",
    "27+1 27+1 27+1 27+1 27+1 27+1 27+1 27+1 27+1 27+1 27+1 27+1 27+1 27+1 27+1 27+1 27+1 27+1",
    "27+1 27+1 27+1 27+1 27+1 27+1 27+1 27+1 27+1 27+1 27+1 27+1 27+1 27+1 27+1 27+1 27+1 27+1",
    "27+1 27+1 27+1 27+1 27+1 27+1 27+1 27+1 27+1 27+1 27+1 27+1 27+1 27+1 27+1 27+1 27+1 27+1",
    "27+1 27+1 27+1 27+1 27+1 27+1 27+1 27+1 27+1 27+1 27+1 27+1 27+1 27+1 27+1 27+1 27+1 27+1",
    "27+1 27+1 27+1 27+1 27+1 27+1 27+1 27+1 27+1 27+1 27+1 27+1 27+1 27+1 27+1 27+1 27+1 27+1",
    "27+1 27+1 27+1 27+1 27+1 27+1 27+1 27+1 27+1 27+1 27+1 27+1 27+1 27+1 27+1 27+1 27+1 27+1",
    "27+1 27+1 27+1 27+1 27+1 27+1 27+1 27+1 27+1 27+1 27+1 27+1 27+1 27+1 27+1 27+1 27+1 27+1",
    "27+1 27+1 27+1 27+1 27+1 27+1 27+1 27+1 27+1 27+1 27+1 27+1 27+1 27+1 27+1 27+1 27+1 27+1",
    "27+1 27+1 27+1 27+1 27+1 27+1 27+1 27+1 27+1 27+1 27+1 27+1 27+1 27+1 27+1 27+1 27+1 27+1",
    "27+1 27+1 27+1 27+1 27+1 27+1 27+1 27+1 27+1 27+1 27+1 27+1 27+1 27+1 27+1 27+1 27+1 27+1",
    "27+1 27+1 27+1 27+1 27+1 27+1 27+1 27+1 27+1 27+1 27+1 27+1 27+1 27+1 27+1 27+1 27+1 27+1",
    "27+1 27+1 27+1 27+1 27+1 27+1 27+1 27+1 27+1 27+1 27+1 27+1 27+1 27+1 27+1 27+1 27+1 27+1",
    "27+1 27+1 27+1 27+1 27+1 27+1 27+1 27+1 27+1 27+1 27+1 27+1 27+1 27+1 27+1 27+1 27+1 27+1",
    "27+1 27+1 27+1 27+1 27+1 27+1 27+1 27+1 27+1 27+1 27+1 27+1 27+1 27+1 27+1 27+1 27+1 27+1",
    "27+1 27+1 27+1 27+1 27+1 27+1 27+1 27+1 27+1 27+1 27+1 27+1 27+1 27+1 27+1 27+1 27+1 27+1",
    "27+1 27+1 27+1 27+1 27+1 27+1 27+1 27+1 27+1 27+1 27+1 27+1 27+1 27+1 27+1 27+1 27+1 27+1",
    "27+1 27+1 27+1 27+1 27+1 27+1 27+1 27+1 27+1 27+1 27+1 27+1 27+1 27+1 27+1 27+1 27+1 27+1",
    "27+1 27+1 27+1 27+1 27+1 27+1 27+1 27+1 27+1 27+1 27+1 27+1 27+1 27+1 27+1 27+1 27+1 27+1",
    "27+1 27+1 27+1 27+1"]),
  (["lvt"], [
    "44033+27 1+27 1+27 1+27 1+27 1+27 1+27 1+27 1+27 1+27 1+27 1+27 1+27 1+27 1+27 1+27 1+27",
    "1+27 1+27 1+27 1+27 1+27 1+27 1+27 1+27 1+27 1+27 1+27 1+27 1+27 1+27 1+27 1+27 1+27 1+27",
    "1+27 1+27 1+27 1+27 1+27 1+27 1+27 1+27 1+27 1+27 1+27 1+27 1+27 1+27 1+27 1+27 1+27 1+27",
    "1+27 1+27 1+27 1+27 1+27 1+27 1+27 1+27 1+27 1+27 1+27 1+27 1+27 1+27 1+27 1+27 1+27 1+27",
    "1+27 1+27 1+27 1+27 1+27 1+27 1+27 1+27 1+27 1+27 1+27 1+27 1+27 1+27 1+27 1+27 1+27 1+27",
    "1+27 1+27 1+27 1+27 1+27 1+27 1+27 1+27 1+27 1+27 1+27 1+27 1+27 1+27 1+27 1+27 1+27 1+27",
    "1+27 1+27 1+27 1+27 1+27 1+27 1+27 1+27 1+27 1+27 1+27 1+27 1+27 1+27 1+27 1+27 1+27 1+27",
    "1+27 1+27 1+27 1+27 1+27 1+27 1+27 1+27 1+27 1+27 1+27 1+27 1+27 1+27 1+27 1+27 1+27 1+27",
    "1+27 1+27 1+27 1+27 1+27 1+27 1+27 1+27 1+27 1+27 1+27 1+27 1+27 1+27 1+27 1+27 1+27 1+27",
    "1+27 1+27 1+27 1+27 1+27 1+27 1+27 1+27 1+27 1+27 1+27 1+27 1+27 1+27 1+27 1+27 1+27 1+27",
    "1+27 1+27 1+27 1+27 1+27 1+27 1+27 1+27 1+27 1+27 1+27 1+27 1+27 1+27 1+27 1+27 1+27 1+27",
    "1+27 1+27 1+27 1+27 1+27 1+27 1+27 1+27 1+27 1+27 1+27 1+27 1+27 1+27 1+27 1+27 1+27 1+27",
    "1+27 1+27 1+27 1+27 1+27 1+27 1+27 1+27 1+27 1+27 1+27 1+27 1+27 1+27 1+27 1+27 1+27 1+27",
    "1+27 1+27 1+27 1+27 1+27 1+27 1+27 1+27 1+27 1+27 1+27 1+27 1+27 1+27 1+27 1+27 1+27 1+27",
    "1+27 1+27 1+27 1+27 1+27 1+27 1+27 1+27 1+27 1+27 1+27 1+27 1+27 1+27 1+27 1+27 1+27 1+27",
    "1+27 1+27 1+27 1+27 1+27 1+27 1+27 1+27 1+27 1+27 1+27 1+27 1+27 1+27 1+27 1+27 1+27 1+27",
    "1+27 1+27 1+27 1+27 1+27 1+27 1+27 1+27 1+27 1+27 1+27 1+27 1+27 1+27 1+27 1+27 1+27 1+27",
    "1+27 1+27 1+27 1+27 1+27 1+27 1+27 1+27 1+27 1+27 1+27 1+27 1+27 1+27 1+27 1+27 1+27 1+27",
    "1+27 1+27 1+27 1+27 1+27 1+27 1+27 1+27 1+27 1+27 1+27 1+27 1+27 1+27 1+27 1+27 1+27 1+27",
    "1+27 1+27 1+27 1+27 1+27 1+27 1+27 1+27 1+27 1+27 1+27 1+27 1+27 1+27 1+27 1+27 1+27 1+27",
    "1+27 1+27 1+27 1+27 1+27 1+27 1+27 1+27 1+27 1+27 1+27 1+27 1+27 1+27 1+27 1+27 1+27 1+27",
    "1+27 1+27 1+27 1+27 1+27 1+27 1+27 1+27 1+27 1+27 1+27 1+27 1+27 1+27 1+27 1+27 1+27 1+27",
    "1+27 1+27 1+27 1+27"]),
  (["pp", "prepend"], [
    "1536+6 215+1 49+1 384+2 80+1 1131+1 66414+1 15+1 244+2 525+1 1389+1 1+1 248+1 73+6 700+1",
    "443+1"]),
  (["ri", "regionalindicator"], [
    "127462+26"]),
  (["sm", "spacingmark"], [
    "2307+1 55+1 2+3 8+4 1+2 50+2 59+2 6+2 2+2 54+1 58+3 66+1 58+3 8+1 1+2 53+2 60+1 6+2 2+2",
    "114+1 1+2 3+3 1+3 52+3 61+4 61+2 58+1 2+1 1+2 46+1 14+2 59+2 5+3 1+3 53+2 76+2 6+7 19+2",
    "63+1 127+1 138+2 63+1 177+1 9+2 25+2 44+1 1841+1 7+8 1+2 346+4 2+3 4+2 1+6 224+2 58+1 1+1",
    "21+6 145+1 57+4 64+1 30+1 4+2 63+1 2+3 1+1 53+8 8+2 171+1 21+1 35627+2 2+1 88+2 50+16",
    "142+1 48+1 48+2 4+2 2+2 111+2 2+2 24+1 157+1 2+2 5+1 237+2 1+2 1+2 1+1 25619+1 1+1 127+1",
    "45+3 4+2 115+1 24+2 59+1 48+3 9+1 14+1 93+3 3+2 172+3 31+2 59+1 1+4 2+2 2+2 21+2 85+2 15+1",
    "1+2 103+3 8+2 3+1 107+2 6+1 1+2 1+1 2+1 238+2 6+4 2+1 113+3 8+2 1+1 109+1 1+2 110+1 7+1",
    "261+3 9+1 248+5 1+2 7+1 1+1 142+3 8+4 4+1 84+1 29+2 62+1 407+1 14+1 106+1 7+1 2+1 213+5",
    "4+2 1+1 350+2 12+1 48+2 8+2 16874+3 3620+55"]),
  (["t"], [
    "4520+88 50635+49"]),
  (["v"], [
    "4448+72 50696+23 38300+1 3+4"]),
  (["zwj"], [
    "8205+1"])]

def wordBreakRows : List (List String × List String) := [
  (["cr"], [
    "13+1"]),
  (["dq", "doublequote"], [
    "34+1"]),
  (["ex", "extendnumlet"], [
    "95+1 8143+1 15+2 19+1 56798+2 24+3 239+1"]),
  (["extend"], [
    "768+112 275+7 263+45 1+1 1+2 1+2 1+1 72+11 48+21 16+1 101+7 2+6 2+2 1+4 35+1 30+27 91+11",
    "58+9 9+1 24+4 1+9 1+3 1+5 43+3 59+9 42+24 1+33 54+3 1+18 1+7 10+2 29+3 56+1 1+7 2+2 2+3",
    "9+1 10+2 26+1 2+3 56+1 1+5 4+2 2+3 3+1 30+2 3+1 11+3 56+1 1+8 1+3 1+3 20+2 22+6 1+3 56+1",
    "1+7 2+2 2+3 7+3 10+2 30+1 59+5 3+3 1+4 9+1 40+5 55+1 1+7 1+3 1+4 7+2 11+2 29+3 56+1 1+7",
    "1+3 1+4 7+2 11+2 15+1 12+4 55+2 1+7 1+3 1+4 9+1 10+2 29+3 70+1 4+6 1+1 1+8 18+2 61+1 2+7",
    "12+8 98+1 2+9 11+7 73+2 27+1 1+1 1+1 4+2 49+20 1+2 5+11 1+36 9+1 100+20 23+4 4+3 1+3 2+7",
    "3+4 13+12 1+1 10+4 703+3 946+4 28+3 29+2 30+2 64+32 9+1 45+3 1+1 117+2 34+1 118+12 4+12",
    "219+5 57+10 1+29 2+1 48+31 49+5 47+17 38+9 12+3 30+13 56+14 48+20 152+3 1+21 4+1 6+1 2+3",
    "198+64 524+1 195+33 3070+3 141+1 96+32 554+6 105+2 30164+4 1+10 32+2 80+2 272+1 3+1 4+1",
    "23+5 4+1 83+2 50+18 26+18 13+1 38+8 25+13 44+4 47+14 36+1 67+14 12+1 8+2 45+3 50+1 1+3 2+2",
    "5+2 1+1 41+5 5+2 236+8 1+2 20272+1 737+16 16+16 366+2 605+1 226+1 149+5 1670+3 1+2 5+4",
    "40+3 4+1 165+2 573+4 65+5 317+2 79+4 70+11 49+4 122+3 53+15 41+1 2+2 10+4 45+11 7+1 61+3",
    "36+14 16+2 44+1 12+3 48+14 8+4 1+2 92+12 6+1 2+1 157+12 21+4 55+2 1+7 2+2 2+3 9+1 10+2 2+7",
    "3+5 67+9 1+1 2+1 1+4 1+5 1+1 14+2 82+18 23+1 81+20 235+7 2+9 27+2 82+17 106+13 101+15",
    "256+15 245+6 1+2 2+4 1+1 1+2 141+7 2+7 3+1 28+10 40+7 1+4 8+1 9+11 46+16 405+8 1+8 82+22",
    "1+14 122+6 3+1 1+2 1+7 1+1 66+5 1+2 1+5 347+4 9+2 1+1 48+7 3+5 23+1 5349+1 6+15 11464+18",
    "2496+5 59+7 1048+1 1+55 7+4 81+1 11+2 19627+2 4705+46 2+23 542+5 3+6 8+8 2+7 30+4 148+3",
    "1979+55 4+50 8+1 14+1 22+5 1+15 1360+7 1+17 2+7 1+2 1+5 100+1 160+7 375+1 61+4 508+4 254+2",
    "736+7 109+7 2736+5 789536+96 128+240"]),
  (["fo", "format"], [
    "173+1 1390+1 4593+1 2047+2 26+5 49+5 1+10 56975+1 249+3 13364+16 34912+4 5327+8 798342+1"]),
  (["hl", "hebrewletter"], [
    "1488+27 4+4 62762+1 1+10 1+13 1+5 1+1 1+2 1+2 1+10"]),
  (["ka", "katakana"], [
    "12337+5 101+2 3+91 1+4 240+16 208+47 1+88 52238+56 45138+4 1+7 1+2 1+1 287+3 50+1 14+4"]),
  (["le", "aletter"], [
    "65+26 6+26 47+1 10+1 2+1 1+1 5+23 1+31 1+480 6+34 112+5 1+2 2+4 1+1 6+1 1+3 1+1 1+20 1+83",
    "1+139 8+166 1+38 2+4 1+1 1+41 1+1 104+1 44+43 35+2 1+99 1+1 15+2 7+2 10+3 2+1 15+2 1+30",
    "29+89 11+1 24+33 9+2 4+1 5+22 4+1 9+1 3+1 23+25 7+11 5+24 1+6 17+42 58+54 3+1 18+1 7+10",
    "15+16 4+8 2+2 2+22 1+7 1+1 3+4 3+1 16+1 13+2 1+3 14+2 10+1 8+6 4+2 2+22 1+7 1+2 1+2 1+2",
    "31+4 1+1 19+3 16+9 1+3 1+22 1+7 1+2 1+5 3+1 18+1 15+2 23+1 11+8 2+2 2+22 1+7 1+2 1+5 3+1",
    "30+2 1+3 15+1 17+1 1+6 3+3 1+4 3+2 1+1 1+2 3+2 3+3 3+12 22+1 52+8 1+3 1+23 1+16 3+1 26+3",
    "2+1 2+2 30+1 4+8 1+3 1+23 1+10 1+5 3+1 31+2 1+2 15+2 17+9 1+3 1+41 2+1 16+1 5+3 8+3 24+6",
    "5+18 3+24 1+9 1+1 2+7 313+1 63+8 1+36 27+5 275+38 1+1 5+1 2+43 1+333 1+4 2+7 1+1 1+4 2+41",
    "1+4 2+33 1+4 2+7 1+1 1+4 2+15 1+57 1+4 2+67 37+16 16+86 2+6 3+620 2+17 1+26 5+75 3+11 7+18",
    "13+19 14+18 14+13 1+3 175+89 7+5 2+34 1+1 5+70 10+31 225+23 238+47 17+8 54+30 13+2 10+44",
    "26+36 41+3 10+36 2+11 5+43 2+3 41+4 1+6 1+2 3+1 5+192 64+278 2+6 2+38 2+6 2+8 1+1 1+1 1+1",
    "1+31 2+53 1+7 1+1 3+3 1+7 3+4 2+6 4+13 5+3 1+7 116+1 13+1 16+13 101+1 4+1 2+10 1+1 3+5 6+1",
    "1+1 1+1 1+4 1+11 2+4 5+5 4+1 17+41 813+52 1814+229 6+4 3+2 12+38 1+1 5+1 2+56 7+1 16+23",
    "9+7 1+7 1+7 1+7 1+7 1+7 1+7 1+7 80+1 469+1 53+2 200+43 1+94 17+32 28224+1165 67+46 2+269",
    "3+16 10+2 20+47 16+31 2+80 24+198 2+2 1+1 1+8 21+16 1+3 1+4 1+23 29+52 14+50 62+6 3+1 1+2",
    "11+28 10+23 25+29 7+47 28+1 48+41 23+3 1+8 148+11 7+3 12+6 2+6 2+6 9+7 1+7 1+58 6+115",
    "29+11172 12+23 4+49 8964+7 12+5 56+98 33+363 18+64 2+54 40+12 116+5 1+135 36+26 6+26 69+31",
    "3+6 2+6 2+6 2+3 35+12 1+26 1+19 1+2 1+15 2+14 34+123 69+53 267+29 3+49 47+32 13+30 5+38",
    "10+30 2+36 4+8 1+5 42+158 18+36 4+36 4+40 8+52 12+11 1+15 1+7 1+2 1+11 1+15 1+7 1+2 3+52",
    "12+311 9+22 10+8 24+6 1+42 1+9 69+6 2+1 1+44 1+2 3+1 2+23 10+23 9+31 65+19 1+2 10+22 10+26",
    "70+56 6+2 64+1 15+4 1+3 1+29 42+29 3+29 35+8 1+28 27+54 10+22 10+19 13+18 110+73 55+51",
    "13+51 13+36 38+28 9+23 250+42 6+2 16+3 59+29 10+1 8+22 42+18 46+21 27+23 12+53 57+2 2+1",
    "13+45 32+25 26+36 29+1 2+1 8+35 3+1 12+48 14+4 21+1 1+1 35+18 1+25 19+2 63+7 1+1 1+4 1+15",
    "1+10 7+47 38+8 2+2 2+22 1+7 1+2 1+5 3+1 18+1 12+5 30+10 1+1 2+1 1+38 1+1 25+1 1+1 44+53",
    "18+4 20+3 30+48 20+2 1+1 184+47 41+4 36+48 20+1 59+43 13+1 327+44 116+64 31+8 2+1 2+8 1+2",
    "1+24 15+1 1+1 94+8 2+39 16+1 1+1 28+1 10+40 7+1 21+1 11+46 19+1 18+73 199+33 31+9 1+37",
    "17+1 49+30 112+7 1+2 1+38 21+1 25+6 1+2 1+32 14+1 327+19 15+1 1+13 1+34 124+1 79+922",
    "102+111 17+196 2636+97 15+1072 17+6 25+3995 5+583 6841+30 1762+569 7+31 17+79 17+30 18+48",
    "16+4 31+21 5+19 432+45 211+64 128+75 5+1 66+13 64+2 1+1 19484+107 5+13 3+9 7+10 5990+85",
    "1+71 1+2 2+1 2+2 2+4 1+12 1+1 1+7 1+65 1+4 2+8 1+7 1+28 1+4 1+5 1+1 3+7 1+340 2+25 1+25",
    "1+31 1+25 1+31 1+25 1+31 1+25 1+31 1+25 1+8 1844+31 6+6 261+62 146+45 10+7 16+1 321+30",
    "18+44 484+28 228+30 2+1 495+7 1+4 1+2 1+15 1+197 59+68 7+1 1204+4 1+27 1+2 1+1 2+1 1+10",
    "1+4 1+1 1+1 6+1 4+1 1+1 1+1 1+3 1+2 1+1 2+1 1+1 1+1 1+1 1+1 1+2 1+1 2+4 1+7 1+4 1+4 1+1",
    "1+10 1+17 5+3 1+5 1+17 628+26 6+26 6+26"]),
  (["lf"], [
    "10+1"]),
  (["mb", "midnumlet"], [
    "46+1 8169+2 10+1 56877+1 180+1 6+1"]),
  (["ml", "midletter"], [
    "58+1 124+1 719+1 471+1 148+1 6706+1 56811+1 65+1 196+1"]),
  (["mn", "midnum"], [
    "44+1 14+1 834+1 522+1 130+2 94+1 395+1 6219+1 56843+1 3+1 183+1 14+1"]),
  (["nl", "newline"], [
    "11+2 120+1 8098+2"]),
  (["nu", "numeric"], [
    "48+10 1478+6 90+10 1+1 113+1 18+10 198+10 198+2 80+1 131+10 118+10 118+10 118+10 118+10",
    "118+10 118+10 118+10 118+10 118+10 96+10 118+10 70+10 278+10 70+10 1862+10 38+10 300+10",
    "128+11 165+10 6+10 182+10 86+10 134+10 6+10 35270+10 678+10 38+10 198+10 22+10 86+10",
    "406+10 21270+10 1414+10 2182+10 6+10 796+10 77+1 15+1 34+10 60+10 144+10 278+10 342+10",
    "118+10 374+10 102+10 6+20 76+10 422+10 102+10 662+10 86+10 246+10 70+10 422+10 16854+10",
    "2342+10 86+10 134+10 534+10 24438+10 2772+50 2368+10 422+10 502+10 247+10 853+10 4758+10"]),
  (["ri", "regionalindicator"], [
    "127462+26"]),
  (["sq", "singlequote"], [
    "39+1"]),
  (["wsegspace"], [
    "32+1 5727+1 2431+7 1+3 84+1 4000+1"]),
  (["zwj"], [
    "8205+1"])]

def sentenceBreakRows : List (List String × List String) := [
  (["at", "aterm"], [
    "46+1 8181+1 56877+1 187+1"]),
  (["cl", "close"], [
    "34+1 4+3 49+1 1+1 29+1 1+1 45+1 15+1 3710+4 1885+2 2427+8 25+2 10+2 54+2 14+2 633+4 29+2",
    "1072+6 7+14 79+2 31+10 403+22 63+4 32+2 1026+14 14+2 2+10 24+1 18+8 427+10 2+8 1+3 52510+2",
    "215+2 28+16 2+2 16+6 169+2 49+1 1+1 29+1 1+1 1+2 1+2 63250+3"]),
  (["cr"], [
    "13+1"]),
  (["ex", "extend"], [
    "768+112 275+7 263+45 1+1 1+2 1+2 1+1 72+11 48+21 16+1 101+7 2+6 2+2 1+4 35+1 30+27 91+11",
    "58+9 9+1 24+4 1+9 1+3 1+5 43+3 59+9 42+24 1+33 54+3 1+18 1+7 10+2 29+3 56+1 1+7 2+2 2+3",
    "9+1 10+2 26+1 2+3 56+1 1+5 4+2 2+3 3+1 30+2 3+1 11+3 56+1 1+8 1+3 1+3 20+2 22+6 1+3 56+1",
    "1+7 2+2 2+3 7+3 10+2 30+1 59+5 3+3 1+4 9+1 40+5 55+1 1+7 1+3 1+4 7+2 11+2 29+3 56+1 1+7",
    "1+3 1+4 7+2 11+2 15+1 12+4 55+2 1+7 1+3 1+4 9+1 10+2 29+3 70+1 4+6 1+1 1+8 18+2 61+1 2+7",
    "12+8 98+1 2+9 11+7 73+2 27+1 1+1 1+1 4+2 49+20 1+2 5+11 1+36 9+1 100+20 23+4 4+3 1+3 2+7",
    "3+4 13+12 1+1 10+4 703+3 946+4 28+3 29+2 30+2 64+32 9+1 45+3 1+1 117+2 34+1 118+12 4+12",
    "219+5 57+10 1+29 2+1 48+31 49+5 47+17 38+9 12+3 30+13 56+14 48+20 152+3 1+21 4+1 6+1 2+3",
    "198+64 524+2 194+33 3070+3 141+1 96+32 554+6 105+2 30164+4 1+10 32+2 80+2 272+1 3+1 4+1",
    "23+5 4+1 83+2 50+18 26+18 13+1 38+8 25+13 44+4 47+14 36+1 67+14 12+1 8+2 45+3 50+1 1+3 2+2",
    "5+2 1+1 41+5 5+2 236+8 1+2 20272+1 737+16 16+16 366+2 605+1 226+1 149+5 1670+3 1+2 5+4",
    "40+3 4+1 165+2 573+4 65+5 317+2 79+4 70+11 49+4 122+3 53+15 41+1 2+2 10+4 45+11 7+1 61+3",
    "36+14 16+2 44+1 12+3 48+14 8+4 1+2 92+12 6+1 2+1 157+12 21+4 55+2 1+7 2+2 2+3 9+1 10+2 2+7",
    "3+5 67+9 1+1 2+1 1+4 1+5 1+1 14+2 82+18 23+1 81+20 235+7 2+9 27+2 82+17 106+13 101+15",
    "256+15 245+6 1+2 2+4 1+1 1+2 141+7 2+7 3+1 28+10 40+7 1+4 8+1 9+11 46+16 405+8 1+8 82+22",
    "1+14 122+6 3+1 1+2 1+7 1+1 66+5 1+2 1+5 347+4 9+2 1+1 48+7 3+5 23+1 5349+1 6+15 11464+18",
    "2496+5 59+7 1048+1 1+55 7+4 81+1 11+2 19627+2 4705+46 2+23 542+5 3+6 8+8 2+7 30+4 148+3",
    "1979+55 4+50 8+1 14+1 22+5 1+15 1360+7 1+17 2+7 1+2 1+5 100+1 160+7 375+1 61+4 508+4 254+2",
    "736+7 109+7 792277+96 128+240"]),
  (["fo", "format"], [
    "173+1 1390+1 242+1 4350+1 2044+1 2+2 26+5 49+5 1+10 56975+1 249+3 13364+16 34912+4 5327+8",
    "798342+1"]),
  (["le", "oletter"], [
    "443+1 4+4 208+1 36+7 6+12 26+1 1+1 133+1 484+1 118+27 4+5 44+43 35+2 1+99 1+1 15+2 7+2",
    "10+3 2+1 16+1 1+30 29+89 11+1 24+33 9+2 4+1 5+22 4+1 9+1 3+1 23+25 7+11 5+24 1+6 17+42",
    "58+54 3+1 18+1 7+10 15+16 4+8 2+2 2+22 1+7 1+1 3+4 3+1 16+1 13+2 1+3 14+2 10+1 8+6 4+2",
    "2+22 1+7 1+2 1+2 1+2 31+4 1+1 19+3 16+9 1+3 1+22 1+7 1+2 1+5 3+1 18+1 15+2 23+1 11+8 2+2",
    "2+22 1+7 1+2 1+5 3+1 30+2 1+3 15+1 17+1 1+6 3+3 1+4 3+2 1+1 1+2 3+2 3+3 3+12 22+1 52+8 1+3",
    "1+23 1+16 3+1 26+3 2+1 2+2 30+1 4+8 1+3 1+23 1+10 1+5 3+1 31+2 1+2 15+2 17+9 1+3 1+41 2+1",
    "16+1 5+3 8+3 24+6 5+18 3+24 1+9 1+1 2+7 58+48 1+2 12+7 58+2 1+1 1+5 1+24 1+1 1+10 1+2 9+1",
    "2+5 1+1 21+4 32+1 63+8 1+36 27+5 115+43 20+1 16+6 4+4 3+1 3+2 7+3 4+13 12+1 65+43 2+332",
    "1+4 2+7 1+1 1+4 2+41 1+4 2+33 1+4 2+7 1+1 1+4 2+15 1+57 1+4 2+67 37+16 113+620 2+17 1+26",
    "5+75 3+11 7+18 13+19 14+18 14+13 1+3 15+52 35+1 4+1 67+89 7+5 2+34 1+1 5+70 10+31 49+30",
    "2+5 11+44 4+26 54+23 9+53 82+1 93+47 17+8 54+30 13+2 10+44 26+36 41+3 10+36 18+43 2+3 41+4",
    "1+6 1+2 3+1 1082+4 71+3 2+4 2983+56 7+1 16+23 9+7 1+7 1+7 1+7 1+7 1+7 1+7 1+7 80+1 469+3",
    "25+9 7+5 2+5 4+86 6+3 1+90 1+4 5+43 1+94 17+32 48+16 512+6592 64+22157 67+46 2+269 3+16",
    "10+2 66+1 16+1 32+80 39+9 104+1 6+1 103+1 3+7 1+3 1+4 1+23 29+52 14+50 62+6 3+1 1+2 11+28",
    "10+23 25+29 7+47 28+1 16+5 1+10 10+5 1+41 23+3 1+8 20+23 3+1 3+50 1+1 3+2 2+5 2+1 1+1 24+3",
    "2+11 7+3 12+6 2+6 2+6 9+7 1+7 145+35 29+11172 12+23 4+49 8452+366 2+106 67+1 1+10 1+13 1+5",
    "1+1 1+2 1+2 1+108 33+363 18+64 2+54 40+12 116+5 1+135 105+56 2+31 3+6 2+6 2+6 2+3 35+12",
    "1+26 1+19 1+2 1+15 2+14 34+123 69+53 267+29 3+49 47+32 13+30 5+38 10+30 2+36 4+8 1+5",
    "122+78 98+40 8+52 92+52 12+311 9+22 10+8 25+2 125+6 2+1 1+44 1+2 3+1 2+23 10+23 9+31 65+19",
    "1+2 10+22 10+26 70+56 6+2 64+1 15+4 1+3 1+29 42+29 3+29 35+8 1+28 27+54 10+22 10+19 13+18",
    "110+73 183+36 38+6 31+1 272+42 6+2 16+3 59+29 10+1 8+22 42+18 46+21 27+23 12+53 57+2 2+1",
    "13+45 32+25 26+36 29+1 2+1 8+35 3+1 12+48 14+4 21+1 1+1 35+18 1+25 19+2 63+7 1+1 1+4 1+15",
    "1+10 7+47 38+8 2+2 2+22 1+7 1+2 1+5 3+1 18+1 12+5 30+10 1+1 2+1 1+38 1+1 25+1 1+1 44+53",
    "18+4 20+3 30+48 20+2 1+1 184+47 41+4 36+48 20+1 59+43 13+1 71+27 37+7 185+44 211+8 2+1 2+8",
    "1+2 1+24 15+1 1+1 94+8 2+39 16+1 1+1 28+1 10+40 7+1 21+1 11+46 19+1 18+73 199+33 31+9 1+37",
    "17+1 49+30 112+7 1+2 1+38 21+1 25+6 1+2 1+32 14+1 327+19 15+1 1+13 1+34 124+1 79+922",
    "102+111 17+196 2636+97 15+1072 17+6 25+3995 5+583 6841+30 1762+569 7+31 17+79 17+30 18+48",
    "16+4 31+21 5+19 432+45 403+75 5+1 66+13 64+2 1+1 28+6136 8+1238 41+10 8935+4 1+7 1+2 1+291",
    "15+1 29+3 2+1 14+4 8+396 2308+107 5+13 3+9 7+10 8816+1 501+45 10+7 16+1 321+30 18+44",
    "484+28 228+30 2+1 495+7 1+4 1+2 1+15 1+197 134+1 1204+4 1+27 1+2 1+1 2+1 1+10 1+4 1+1 1+1",
    "6+1 4+1 1+1 1+1 1+3 1+2 1+1 2+1 1+1 1+1 1+1 1+1 1+2 1+1 2+4 1+7 1+4 1+4 1+1 1+10 1+17 5+3",
    "1+5 1+17 4420+42720 32+4154 6+222 2+5762 14+7473 15+622 2466+542 1506+4939 5+4192"]),
  (["lf"], [
    "10+1"]),
  (["lo", "lower"], [
    "97+26 47+1 10+1 4+1 36+24 1+8 1+1 1+1 1+1 1+1 1+1 1+1 1+1 1+1 1+1 1+1 1+1 1+1 1+1 1+1 1+1",
    "1+1 1+1 1+1 1+1 1+1 1+1 1+1 1+1 1+1 1+1 1+1 1+1 1+2 1+1 1+1 1+1 1+1 1+1 1+1 1+1 1+2 1+1",
    "1+1 1+1 1+1 1+1 1+1 1+1 1+1 1+1 1+1 1+1 1+1 1+1 1+1 1+1 1+1 1+1 1+1 1+1 1+1 1+1 1+1 1+1",
    "2+1 1+1 1+3 2+1 1+1 2+1 3+2 4+1 2+1 3+3 2+1 2+1 1+1 1+1 2+1 1+2 1+1 2+1 3+1 1+1 2+2 2+3",
    "6+1 2+1 2+1 1+1 1+1 1+1 1+1 1+1 1+1 1+1 1+2 1+1 1+1 1+1 1+1 1+1 1+1 1+1 1+1 1+2 2+1 1+1",
    "3+1 1+1 1+1 1+1 1+1 1+1 1+1 1+1 1+1 1+1 1+1 1+1 1+1 1+1 1+1 1+1 1+1 1+1 1+1 1+1 1+1 1+1",
    "1+1 1+1 1+1 1+1 1+1 1+1 1+1 1+7 2+1 2+2 1+1 4+1 1+1 1+1 1+1 1+69 1+36 7+2 30+5 140+1 1+1",
    "3+1 2+4 18+1 27+35 1+2 3+3 1+1 1+1 1+1 1+1 1+1 1+1 1+1 1+1 1+1 1+1 1+1 1+5 1+1 2+1 2+2",
    "51+48 1+1 1+1 1+1 1+1 1+1 1+1 1+1 1+1 1+1 1+1 1+1 1+1 1+1 1+1 1+1 1+1 1+1 9+1 1+1 1+1 1+1",
    "1+1 1+1 1+1 1+1 1+1 1+1 1+1 1+1 1+1 1+1 1+1 1+1 1+1 1+1 1+1 1+1 1+1 1+1 1+1 1+1 1+1 1+1",
    "1+1 2+1 1+1 1+1 1+1 1+1 1+1 1+2 1+1 1+1 1+1 1+1 1+1 1+1 1+1 1+1 1+1 1+1 1+1 1+1 1+1 1+1",
    "1+1 1+1 1+1 1+1 1+1 1+1 1+1 1+1 1+1 1+1 1+1 1+1 1+1 1+1 1+1 1+1 1+1 1+1 1+1 1+1 1+1 1+1",
    "1+1 1+1 1+1 1+1 1+1 1+1 1+1 1+1 1+1 1+1 1+1 1+1 48+41 2931+1 763+6 2178+9 1+1 117+192 65+1",
    "1+1 1+1 1+1 1+1 1+1 1+1 1+1 1+1 1+1 1+1 1+1 1+1 1+1 1+1 1+1 1+1 1+1 1+1 1+1 1+1 1+1 1+1",
    "1+1 1+1 1+1 1+1 1+1 1+1 1+1 1+1 1+1 1+1 1+1 1+1 1+1 1+1 1+1 1+1 1+1 1+1 1+1 1+1 1+1 1+1",
    "1+1 1+1 1+1 1+1 1+1 1+1 1+1 1+1 1+1 1+1 1+1 1+1 1+1 1+1 1+1 1+1 1+1 1+1 1+1 1+1 1+1 1+1",
    "1+1 1+1 1+1 1+1 1+1 1+1 1+1 1+9 1+1 1+1 1+1 1+1 1+1 1+1 1+1 1+1 1+1 1+1 1+1 1+1 1+1 1+1",
    "1+1 1+1 1+1 1+1 1+1 1+1 1+1 1+1 1+1 1+1 1+1 1+1 1+1 1+1 1+1 1+1 1+1 1+1 1+1 1+1 1+1 1+1",
    "1+1 1+1 1+1 1+1 1+1 1+1 1+1 1+1 1+1 1+1 1+1 1+1 1+9 8+6 10+8 8+8 8+6 10+8 8+8 8+14 2+8 8+8",
    "8+8 8+5 1+2 6+1 3+3 1+2 8+4 2+2 8+8 10+3 1+2 121+1 13+1 16+13 109+1 3+2 3+1 27+1 4+1 4+1",
    "2+2 8+4 4+1 33+16 4+1 843+26 1862+48 1+1 3+2 1+1 1+1 1+1 4+1 1+2 1+8 3+1 1+1 1+1 1+1 1+1",
    "1+1 1+1 1+1 1+1 1+1 1+1 1+1 1+1 1+1 1+1 1+1 1+1 1+1 1+1 1+1 1+1 1+1 1+1 1+1 1+1 1+1 1+1",
    "1+1 1+1 1+1 1+1 1+1 1+1 1+1 1+1 1+1 1+1 1+1 1+1 1+1 1+1 1+1 1+1 1+1 1+1 1+1 1+1 1+1 1+1",
    "1+2 7+1 1+1 4+1 12+38 1+1 5+1 30995+1 1+1 1+1 1+1 1+1 1+1 1+1 1+1 1+1 1+1 1+1 1+1 1+1 1+1",
    "1+1 1+1 1+1 1+1 1+1 1+1 1+1 1+1 1+1 19+1 1+1 1+1 1+1 1+1 1+1 1+1 1+1 1+1 1+1 1+1 1+1 1+1",
    "1+3 133+1 1+1 1+1 1+1 1+1 1+1 1+3 1+1 1+1 1+1 1+1 1+1 1+1 1+1 1+1 1+1 1+1 1+1 1+1 1+1 1+1",
    "1+1 1+1 1+1 1+1 1+1 1+1 1+1 1+1 1+1 1+1 1+1 1+1 1+1 1+1 1+1 1+1 1+10 1+1 1+1 2+1 1+1 1+1",
    "1+1 1+1 4+1 1+1 2+1 1+3 1+1 1+1 1+1 1+1 1+1 1+1 1+1 1+1 1+1 1+1 5+1 5+1 1+1 1+1 1+1 1+1",
    "1+1 1+1 1+1 4+1 1+1 2+1 3+1 1+1 1+1 1+1 1+1 1+1 22+3 1+1 1+3 821+43 1+14 6+80 20288+7 12+5",
    "1065+26 1229+40 136+36 155+11 1+15 1+7 1+2 451+1 2+3 1+42 1+9 1285+51 125+22 2874+32",
    "21888+32 26010+26 26+7 1+18 26+26 26+4 1+1 1+7 1+11 26+26 26+26 26+26 26+26 26+26 26+26",
    "26+26 26+26 26+28 28+25 1+6 26+25 1+6 26+25 1+6 26+25 1+6 26+25 1+6 1+1 1844+10 1+20 6+6",
    "261+62 2228+34"]),
  (["nu", "numeric"], [
    "48+10 1478+6 90+10 1+2 112+1 18+10 198+10 198+2 80+1 131+10 118+10 118+10 118+10 118+10",
    "118+10 118+10 118+10 118+10 118+10 96+10 118+10 70+10 278+10 70+10 1862+10 38+10 300+10",
    "128+11 165+10 6+10 182+10 86+10 134+10 6+10 35270+10 678+10 38+10 198+10 22+10 86+10",
    "406+10 21270+10 1414+10 2182+10 6+10 796+10 77+1 15+1 34+10 60+10 144+10 278+10 342+10",
    "118+10 374+10 102+10 6+20 76+10 422+10 102+10 662+10 86+10 246+10 70+10 422+10 16854+10",
    "2342+10 86+10 134+10 534+10 24438+10 2772+50 2368+10 422+10 502+10 247+10 853+10 4758+10"]),
  (["sc", "scontinue"], [
    "44+2 12+2 834+1 478+1 174+2 490+1 4105+1 5+1 2058+2 4076+1 52750+2 1+2 28+2 29+2 2+2 2+1",
    "10+1 168+2 12+2 72+1"]),
  (["se", "sep"], [
    "133+1 8098+2"]),
  (["sp"], [
    "9+1 1+2 19+1 127+1 5599+1 2431+11 36+1 47+1 4000+1"]),
  (["st", "sterm"], [
    "33+1 29+1 1353+1 147+3 180+1 43+3 246+1 61+1 1+1 3+2 293+2 1764+2 790+1 4+2 773+1 198+2",
    "157+2 45+1 5+1 314+2 354+4 162+2 10+2 2+2 29+3 187+2 65+2 956+2 9+3 3247+3 306+1 13+1 22+2",
    "429+1 29948+1 270+2 227+1 3+1 382+2 86+2 95+1 152+2 147+3 144+2 249+1 21030+1 2+2 63+2",
    "169+1 29+1 65+1 2804+2 1277+5 44+4 189+2 117+4 127+3 129+2 6+1 16+2 88+2 1+2 108+1 298+2",
    "117+2 373+2 5+15 105+2 249+3 517+1 1+1 251+2 87+2 420+2 692+2 74+2 19241+2 133+1 65+2 11+1",
    "553+2 296+1 19974+1 7656+1"]),
  (["up", "upper"], [
    "65+26 101+23 1+7 33+1 1+1 1+1 1+1 1+1 1+1 1+1 1+1 1+1 1+1 1+1 1+1 1+1 1+1 1+1 1+1 1+1 1+1",
    "1+1 1+1 1+1 1+1 1+1 1+1 1+1 1+1 1+1 1+1 2+1 1+1 1+1 1+1 1+1 1+1 1+1 1+1 2+1 1+1 1+1 1+1",
    "1+1 1+1 1+1 1+1 1+1 1+1 1+1 1+1 1+1 1+1 1+1 1+1 1+1 1+1 1+1 1+1 1+1 1+1 1+1 1+2 1+1 1+1",
    "3+2 1+1 1+2 1+3 2+4 1+2 1+3 3+2 1+2 1+1 1+1 1+2 1+1 2+1 1+2 1+3 1+1 1+2 3+1 7+2 1+2 1+2",
    "1+1 1+1 1+1 1+1 1+1 1+1 1+1 1+1 2+1 1+1 1+1 1+1 1+1 1+1 1+1 1+1 1+1 2+2 1+1 1+3 1+1 1+1",
    "1+1 1+1 1+1 1+1 1+1 1+1 1+1 1+1 1+1 1+1 1+1 1+1 1+1 1+1 1+1 1+1 1+1 1+1 1+1 1+1 1+1 1+1",
    "1+1 1+1 1+1 1+1 1+1 7+2 1+2 2+1 1+4 1+1 1+1 1+1 1+1 289+1 1+1 3+1 8+1 6+1 1+3 1+1 1+2 1+17",
    "1+9 35+1 2+3 3+1 1+1 1+1 1+1 1+1 1+1 1+1 1+1 1+1 1+1 1+1 1+1 5+1 2+1 1+2 2+51 48+1 1+1 1+1",
    "1+1 1+1 1+1 1+1 1+1 1+1 1+1 1+1 1+1 1+1 1+1 1+1 1+1 1+1 9+1 1+1 1+1 1+1 1+1 1+1 1+1 1+1",
    "1+1 1+1 1+1 1+1 1+1 1+1 1+1 1+1 1+1 1+1 1+1 1+1 1+1 1+1 1+1 1+1 1+1 1+1 1+1 1+2 1+1 1+1",
    "1+1 1+1 1+1 1+1 2+1 1+1 1+1 1+1 1+1 1+1 1+1 1+1 1+1 1+1 1+1 1+1 1+1 1+1 1+1 1+1 1+1 1+1",
    "1+1 1+1 1+1 1+1 1+1 1+1 1+1 1+1 1+1 1+1 1+1 1+1 1+1 1+1 1+1 1+1 1+1 1+1 1+1 1+1 1+1 1+1",
    "1+1 1+1 1+1 1+1 1+1 1+1 1+1 1+1 2+38 2889+38 1+1 5+1 722+86 2195+1 374+1 1+1 1+1 1+1 1+1",
    "1+1 1+1 1+1 1+1 1+1 1+1 1+1 1+1 1+1 1+1 1+1 1+1 1+1 1+1 1+1 1+1 1+1 1+1 1+1 1+1 1+1 1+1",
    "1+1 1+1 1+1 1+1 1+1 1+1 1+1 1+1 1+1 1+1 1+1 1+1 1+1 1+1 1+1 1+1 1+1 1+1 1+1 1+1 1+1 1+1",
    "1+1 1+1 1+1 1+1 1+1 1+1 1+1 1+1 1+1 1+1 1+1 1+1 1+1 1+1 1+1 1+1 1+1 1+1 1+1 1+1 1+1 1+1",
    "1+1 1+1 1+1 1+1 9+1 1+1 1+1 1+1 1+1 1+1 1+1 1+1 1+1 1+1 1+1 1+1 1+1 1+1 1+1 1+1 1+1 1+1",
    "1+1 1+1 1+1 1+1 1+1 1+1 1+1 1+1 1+1 1+1 1+1 1+1 1+1 1+1 1+1 1+1 1+1 1+1 1+1 1+1 1+1 1+1",
    "1+1 1+1 1+1 1+1 1+1 1+1 1+1 1+1 1+1 9+8 8+6 10+8 8+8 8+6 11+1 1+1 1+1 1+1 8+8 24+8 8+8 8+8",
    "8+5 11+5 11+4 12+5 11+5 261+1 4+1 3+3 2+3 2+1 3+5 6+1 1+1 1+1 1+4 2+4 10+2 5+1 26+16 19+1",
    "818+26 1840+48 48+1 1+3 2+1 1+1 1+1 1+4 1+1 2+1 8+3 1+1 1+1 1+1 1+1 1+1 1+1 1+1 1+1 1+1",
    "1+1 1+1 1+1 1+1 1+1 1+1 1+1 1+1 1+1 1+1 1+1 1+1 1+1 1+1 1+1 1+1 1+1 1+1 1+1 1+1 1+1 1+1",
    "1+1 1+1 1+1 1+1 1+1 1+1 1+1 1+1 1+1 1+1 1+1 1+1 1+1 1+1 1+1 1+1 1+1 1+1 8+1 1+1 4+1",
    "31053+1 1+1 1+1 1+1 1+1 1+1 1+1 1+1 1+1 1+1 1+1 1+1 1+1 1+1 1+1 1+1 1+1 1+1 1+1 1+1 1+1",
    "1+1 1+1 19+1 1+1 1+1 1+1 1+1 1+1 1+1 1+1 1+1 1+1 1+1 1+1 1+1 1+1 135+1 1+1 1+1 1+1 1+1 1+1",
    "1+1 3+1 1+1 1+1 1+1 1+1 1+1 1+1 1+1 1+1 1+1 1+1 1+1 1+1 1+1 1+1 1+1 1+1 1+1 1+1 1+1 1+1",
    "1+1 1+1 1+1 1+1 1+1 1+1 1+1 1+1 1+1 1+1 10+1 1+1 1+2 1+1 1+1 1+1 1+1 4+1 1+1 2+1 1+1 3+1",
    "1+1 1+1 1+1 1+1 1+1 1+1 1+1 1+1 1+1 1+5 1+5 1+1 1+1 1+1 1+1 1+1 1+1 1+1 1+4 1+1 1+2 3+1",
    "5+1 1+1 1+1 1+1 24+1 22315+26 1221+40 136+36 156+11 1+15 1+7 1+2 1770+51 157+22 2874+32",
    "21888+32 26016+26 26+26 26+26 26+1 1+2 2+1 2+2 2+4 1+8 26+26 26+2 1+4 2+8 1+7 27+2 1+4 1+5",
    "1+1 3+7 27+26 26+26 26+26 26+26 26+26 26+26 30+25 33+25 33+25 33+25 33+25 33+1 4405+34",
    "2062+26 6+26 6+26"])]

end TextTemplate.Unicode
