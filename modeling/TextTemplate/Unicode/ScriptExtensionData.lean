/-!
# Characters of several scripts, as data

The characters of version 16.0 of the Unicode character database that are used in other scripts than
their own: the codes of the scripts, blank-separated, and the code points, as distances and lengths
the way RangeTable.decode reads them. -/

namespace TextTemplate.Unicode

/-- The codes of scripts, and the code points that are used in exactly these. -/
def sharedScriptRows : List (List String × List String) := [
  (["adlm arab"], [
    "8271+1"]),
  (["adlm arab gara nkoo rohg syrc thaa yezi"], [
    "1567+1"]),
  (["adlm arab hung"], [
    "11841+1"]),
  (["adlm arab mand mani ougr phlp rohg sogd syrc"], [
    "1600+1"]),
  (["aghb cher copt cyrl goth grek latn osge syrc tfng todr"], [
    "772+1"]),
  (["aghb cher goth latn sunu syrc thai"], [
    "817+1"]),
  (["aghb latn todr"], [
    "862+1"]),
  (["arab copt"], [
    "66272+28"]),
  (["arab gara nkoo rohg syrc thaa yezi"], [
    "1548+1 14+1"]),
  (["arab nkoo"], [
    "64830+2"]),
  (["arab rohg"], [
    "1748+1"]),
  (["arab syrc"], [
    "1611+11 26+1"]),
  (["arab syrc thaa"], [
    "1564+1"]),
  (["arab thaa"], [
    "65010+1 10+1"]),
  (["arab thaa yezi"], [
    "1632+10"]),
  (["armn cyrl dupl goth grek hebr latn perm syrc tale tfng"], [
    "776+1"]),
  (["armn geor glag"], [
    "1417+1"]),
  (["avst cari copt dupl elba geor glag gong goth grek hani latn lydi mahj perm shaw"], [
    "183+1"]),
  (["avst cari geor hung kthi lydi samr"], [
    "11825+1"]),
  (["avst orkh"], [
    "11824+1"]),
  (["beng"], [
    "7415+1"]),
  (["beng cakm sylo"], [
    "2534+10"]),
  (["beng cyrl deva latn lisu thai toto"], [
    "700+1"]),
  (["beng deva"], [
    "7393+1 19+2"]),
  (["beng deva dogr gong gonm gran gujr gukh guru knda limb mahj mlym nand onao orya sind",
    "sinh sylo takr taml telu tirh"], [
    "2405+1"]),
  (["beng deva dogr gong gonm gran gujr guru knda mahj mlym nand onao orya sind sinh sylo",
    "takr taml telu tirh"], [
    "2404+1"]),
  (["beng deva gran gujr guru knda latn mlym nand newa orya shrd taml telu tirh"], [
    "2385+1"]),
  (["beng deva gran gujr guru knda latn mlym newa orya taml telu tirh"], [
    "2386+1"]),
  (["beng deva gran knda"], [
    "7376+1 1+1"]),
  (["beng deva gran knda mlym nand orya sinh telu tirh tutg"], [
    "7410+1"]),
  (["beng deva newa shrd"], [
    "7405+1"]),
  (["beng deva newa telu"], [
    "7384+1"]),
  (["beng deva newa telu tirh"], [
    "7381+1"]),
  (["beng deva shrd"], [
    "7402+1"]),
  (["beng deva telu"], [
    "7382+1"]),
  (["beng deva tutg"], [
    "43249+1"]),
  (["bopo hang hani hira kana"], [
    "12291+1 15+1 8+4 16+1 6+1 52749+2"]),
  (["bopo hang hani hira kana lisu mong tibt yiii"], [
    "12298+2"]),
  (["bopo hang hani hira kana mong phag yiii"], [
    "12290+1"]),
  (["bopo hang hani hira kana mong tibt yiii"], [
    "12296+2"]),
  (["bopo hang hani hira kana mong yiii"], [
    "12289+1"]),
  (["bopo hang hani hira kana yiii"], [
    "12300+6 2+8 223+1 52837+5"]),
  (["bopo hani"], [
    "12330+4"]),
  (["bopo latn"], [
    "711+1 1+3 13+1"]),
  (["bugi java"], [
    "43471+1"]),
  (["buhd hano tagb tglg"], [
    "5941+2"]),
  (["cakm mymr tale"], [
    "4160+10"]),
  (["cari geor glag hung lyci orkh"], [
    "8282+1"]),
  (["cari grek hung mero"], [
    "8285+1"]),
  (["cher copt cyrl grek latn perm sunu tale"], [
    "768+1"]),
  (["cher cyrl grek latn osge sunu tale todr"], [
    "769+1"]),
  (["cher cyrl latn osge"], [
    "779+1"]),
  (["cher cyrl latn tfng"], [
    "770+1"]),
  (["cher dupl kana latn syrc tfng"], [
    "803+1"]),
  (["cher dupl latn syrc"], [
    "804+1"]),
  (["cher latn syrc"], [
    "816+1"]),
  (["cher latn tale"], [
    "780+1"]),
  (["copt dupl hebr latn perm syrc tale tfng todr"], [
    "775+1"]),
  (["copt elba glag goth kana latn"], [
    "773+1"]),
  (["copt grek"], [
    "884+2"]),
  (["copt latn"], [
    "11799+1"]),
  (["cpmn cprt linb"], [
    "65792+2"]),
  (["cprt lina linb"], [
    "65799+45"]),
  (["cprt linb"], [
    "65794+1 52+9"]),
  (["cyrl glag"], [
    "1156+1 2+1 10683+1 30763+1"]),
  (["cyrl grek latn perm tfng"], [
    "774+1"]),
  (["cyrl latn"], [
    "1157+2"]),
  (["cyrl latn syrc"], [
    "7672+1"]),
  (["cyrl latn todr"], [
    "785+1"]),
  (["cyrl perm"], [
    "1155+1"]),
  (["deva"], [
    "7377+1 2+1 6+1 2+2 3+6 3+1 1+4"]),
  (["deva dogr gujr guru khoj knda kthi mahj mlym modi nand shrd sind takr tirh tutg"], [
    "43056+3"]),
  (["deva dogr gujr guru khoj knda kthi mahj modi nand shrd sind takr tirh tutg"], [
    "43059+3"]),
  (["deva dogr gujr guru khoj kthi mahj modi shrd sind takr tirh"], [
    "43064+1"]),
  (["deva dogr gujr guru khoj kthi mahj modi sind takr tirh"], [
    "43062+2 1+1"]),
  (["deva dogr kthi mahj"], [
    "2406+10"]),
  (["deva gran"], [
    "7411+1 4+2"]),
  (["deva gran knda"], [
    "7379+1"]),
  (["deva gran knda tutg"], [
    "7412+1"]),
  (["deva gran latn"], [
    "8432+1"]),
  (["deva knda mlym orya taml telu"], [
    "7386+1"]),
  (["deva nand newa"], [
    "7401+1"]),
  (["deva newa"], [
    "7403+1"]),
  (["deva newa shrd"], [
    "7383+1"]),
  (["deva newa tirh"], [
    "7394+1"]),
  (["deva shrd"], [
    "7385+1 2+2 2+1"]),
  (["deva taml"], [
    "43251+1"]),
  (["dupl"], [
    "11836+1 101987+4"]),
  (["dupl latn syrc"], [
    "778+1"]),
  (["ethi latn"], [
    "782+1"]),
  (["geor glag latn"], [
    "4347+1"]),
  (["glag latn sunu syrc thai"], [
    "771+1"]),
  (["gran taml"], [
    "3046+14 67341+1 1+1 55+2 3219+2 1+1"]),
  (["grek"], [
    "834+1 2+1 6778+2"]),
  (["grek latn perm todr"], [
    "787+1"]),
  (["gujr khoj"], [
    "2790+10"]),
  (["guru mult"], [
    "2662+10"]),
  (["hani"], [
    "12294+1 55+2 336+16 32+38 58+40 56+49 15+12 51+1 88+25 10+5 96+31 106337+18 7902+2"]),
  (["hani hira kana"], [
    "12348+2"]),
  (["hani latn"], [
    "42752+8"]),
  (["hani tang"], [
    "12272+16 495+1"]),
  (["hira kana"], [
    "12337+5 99+4 3+1 91+1 52851+1 45+2"]),
  (["kali latn mymr"], [
    "43310+1"]),
  (["knda nand tutg"], [
    "3302+10"]),
  (["latn"], [
    "867+13"]),
  (["latn lisu"], [
    "717+1"]),
  (["latn mong phag"], [
    "8239+1"]),
  (["latn osge"], [
    "856+1"]),
  (["latn sunu"], [
    "781+1 2+1"]),
  (["latn sunu syrc"], [
    "813+1"]),
  (["latn syrc"], [
    "805+1 8+1"]),
  (["latn tfng"], [
    "777+1"]),
  (["latn thai"], [
    "727+1"]),
  (["mani ougr"], [
    "68338+1"]),
  (["mong phag"], [
    "6146+2 1+1"]),
  (["nand"], [
    "7418+1"]),
  (["runr"], [
    "5867+3"]),
  (["syrc"], [
    "7674+1"])]

end TextTemplate.Unicode
