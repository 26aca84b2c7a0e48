import Conformance.Unicode.CodePoints

/-!
# Scripts

The code points of each script.

The data are those of Unicode 15.0, packed as `Conformance.Unicode.NamedSet` says; every set is
given with all its names, in the spelling that `Conformance.Unicode.looseName` produces.
-/

namespace Conformance.Unicode

/-- The code points of each script. -/
def scripts : List NamedSet := [
  ⟨["adlm", "adlam"], ["go6DrCEJEB"]⟩,
  ⟨["ahom"], ["g4lCaCOEW"]⟩,
  ⟨["hluw", "anatolianhieroglyphs"], ["ggxCmS"]⟩,
  ⟨["arab", "arabic"], [
    "gwBEBFBNBCBfBJLZBrDBhBwCvBwHeBBGpCBcwy8ByDQqLCvCC1BHAgBPwDEBmEj7De.DCg43BDBaBBBACABJBDBABAGA",
    "EABABABCBBBACABABABABABBBACDBGBDBDBABJBQFCBEBQ0BB"]⟩,
  ⟨["armn", "armenian"], ["xpBlBCxBCCjs9BE"]⟩,
  ⟨["avst", "avestan"], ["g4iC1BDG"]⟩,
  ⟨["bali", "balinese"], ["g4GsCDuB"]⟩,
  ⟨["bamu", "bamum"], ["g1pB3CoowB4R"]⟩,
  ⟨["bass", "bassavah"], ["w26CdCF"]⟩,
  ⟨["batk", "batak"], ["g.GzBID"]⟩,
  ⟨["beng", "bengali"], ["gsCDBHCBCVBGBADDCICBCDIAEBBECY"]⟩,
  ⟨["bhks", "bhaiksuki"], ["ggnCIBsBBNKc"]⟩,
  ⟨["bopo", "bopomofo"], ["qXB5wLqBwDf"]⟩,
  ⟨["brah", "brahmi"], ["ggkCtCEjBJA"]⟩,
  ⟨["brai", "braille"], ["ggK:H"]⟩,
  ⟨["bugi", "buginese"], ["gwGbCB"]⟩,
  ⟨["buhd", "buhid"], ["g6FT"]⟩,
  ⟨["cans", "canadianaboriginal"], ["ggF:TwRlC6tgCP"]⟩,
  ⟨["cari", "carian"], ["g1gCwB"]⟩,
  ⟨["aghb", "caucasianalbanian"], ["wphCzBLA"]⟩,
  ⟨["cakm", "chakma"], ["gokC0BBR"]⟩,
  ⟨["cham"], ["gwqB2BJNCJCD"]⟩,
  ⟨["cher", "cherokee"], ["g9E1CCFy7lBvC"]⟩,
  ⟨["chrs", "chorasmian"], ["w9jCb"]⟩,
  ⟨["zyyy", "common"], [
    "AgCaFauBBOBEXAfAhOmBFECT0DAJAGABA9TAGAOADAgBA8EAkQAhEB5mBA1MDiJAvvBCnCBrGBBAtmBANAHDBFBCCAlY",
    "LC2CBKDKBORgB:BlBBCCFBaBQpBCE2UZKV:cgIzTCfBoDgQ9CyMLEEBABYPHED7CBDA6CBzEPgBjB8B:BfwCvBA4CnFg",
    "uG:BgoWhBmDClFJ0HAgFArMAOByuUBwGJWiBBSBDzEABfaFaKKAtBBgCGBGKEiICEsBDIwCMzBsBkHaktuBDs1EzD8B1",
    "HKmBC9BDQIBHdE8B1GTMTM2CJYnE0CBmCBBCACBCDBLBABGBgCBDCHBGBbBDBEBADGBzKCjJCxBxjFjCsC8BiWrBEjDM",
    "OCOBOBkBKtF4BZBBNrBEIHBOF6E3eEQDMD2DE.CGLEAPLE3BIJGnBIdCBuCzKMNCMDIHtBBGINEIHIHyEB2BlBJnghYA",
    "e:C"]⟩,
  ⟨["copt", "coptic", "qaac"], ["ifNwkKzDFG"]⟩,
  ⟨["xsux", "cuneiform"], ["ggoC5cmDuDBELjG"]⟩,
  ⟨["cprt", "cypriot"], ["ggiCFCABrBBBDACA"]⟩,
  ⟨["cpmn", "cyprominoan"], ["w8rCiD"]⟩,
  ⟨["cyrl", "cyrillic"], ["ggBkECoFw6FIiFAsCAnjEfgie:Cu8VBgw4B9BhBA"]⟩,
  ⟨["dsrt", "deseret"], ["gghCvC"]⟩,
  ⟨["deva", "devanagari"], ["goCwCEOCZg7nBfgwcJ"]⟩,
  ⟨["diak", "divesakuru"], ["gomCGCACHBBBdBBCLJJ"]⟩,
  ⟨["dogr", "dogra"], ["ggmC7B"]⟩,
  ⟨["dupl", "duployan"], ["ggvDqDFMDIHJCD"]⟩,
  ⟨["egyp", "egyptianhieroglyphs"], ["ggsC1iB"]⟩,
  ⟨["elba", "elbasan"], ["gohCnB"]⟩,
  ⟨["elym", "elymaic"], ["g:jCW"]⟩,
  ⟨["ethi", "ethiopic"], [
    "gwEoCBDCGBABDCoBBDCgBBDCGBABDCOB4BBDCiCCfDZmvGWJGBGBGBGBGBGBGBGipfFCFCFJGBGxlvCGBDBBBO"]⟩,
  ⟨["geor", "georgian"], ["glElBBAFACqBBDw8CqBCCgiElBBAFA"]⟩,
  ⟨["glag", "glagolitic"], ["ggL:Cg9sDGBQCGBBBE"]⟩,
  ⟨["goth", "gothic"], ["w5gCa"]⟩,
  ⟨["gran", "grantha"], ["g4kCDBHCBCVBGBBBECICBCCCAGAFGCGDE"]⟩,
  ⟨["grek", "greek"], [
    "wbDBCCDBAEABABCBABTB.BOPmpGEyBEEE0CAgKVCFClBCFCHBABABABeC0BBOBNCFBSCCBInJA",
    ".xiBA6uVuCRA:i0BlC"]⟩,
  ⟨["gujr", "gujarati"], ["h0CCBIBCBVBGBBBECJBCBCCAPDCLHG"]⟩,
  ⟨["gong", "gunjalagondi"], ["grnCFBBBkBBBBFHJ"]⟩,
  ⟨["guru", "gurmukhi"], ["hwCCBFEBCVBGBBBBBBCABEEBCCDAHDBAHQ"]⟩,
  ⟨["hani", "han"], [
    "g0LZB4CM1GvBABAZIODke:tGgC:vUgoWtLCpDoodBMBugkB:2pBgB5hEG9GCh0FOwpH:gD9QivBq6EF:iE"]⟩,
  ⟨["hang", "hangul"], ["goE:HuxHBhI9CxDehCeh3dcjUj9KMWEwBk9JeDFCFCFCC"]⟩,
  ⟨["rohg", "hanifirohingya"], ["gojCnBIJ"]⟩,
  ⟨["hano", "hanunoo"], ["g5FU"]⟩,
  ⟨["hatr", "hatran"], ["gniCSBBFE"]⟩,
  ⟨["hebr", "hebrew"], ["xsB2BIaEFop9BZBEBABBBBBJ"]⟩,
  ⟨["hira", "hiragana"], ["hiM1CGCh7:C.ISAdCtlQA"]⟩,
  ⟨["armi", "imperialaramaic"], ["giiCVBI"]⟩,
  ⟨["zinh", "inherited", "qaai"], [
    "gYvD1IBkOKaAgXD7qEehQCBMBGEAGADBmG:BsQBiGgB55DDrDBlrzBPQNveAiHA6iEAk.uBtBCWgRCRHCGeDy6rYvH"]⟩,
  ⟨["phli", "inscriptionalpahlavi"], ["g7iCSFH"]⟩,
  ⟨["prti", "inscriptionalparthian"], ["g6iCVCH"]⟩,
  ⟨["java", "javanese"], ["gsqBtCCJEB"]⟩,
  ⟨["kthi", "kaithi"], ["gkkCiCKA"]⟩,
  ⟨["knda", "kannada"], ["gkDMBCBWBJBECIBCBDHBGBBDCJBC"]⟩,
  ⟨["kana", "katakana"], ["hlM5CCCwHPwGuBB3CugzBJBsByisBDBGBBBA:ICyBAOD"]⟩,
  ⟨["kawi"], ["g4nCQBoBDb"]⟩,
  ⟨["kali", "kayahli"], ["goqBtBBA"]⟩,
  ⟨["khar", "kharoshthi"], ["gwiCDBBFHBCBcCCEJHI"]⟩,
  ⟨["kits", "khitansmallscript"], ["k:7CA74G1O"]⟩,
  ⟨["khmr", "khmer"], ["g8F9CCJGJmPf"]⟩,
  ⟨["khoj", "khojki"], ["gwkCRBuB"]⟩,
  ⟨["sind", "khudawadi"], ["w1kC6BFJ"]⟩,
  ⟨["laoo", "lao"], ["h0DBBABEBXBABWCEBABGBJCD"]⟩,
  ⟨["latn", "latin"], [
    "hCZGZvBAPAFWBeBgOnBE7wGlBGwBFDFMBlChC:HxLANAQMtEBGAbARoB32Cfi1elDD:BFBBABEYNwZqBBIBD28TG6gBZ",
    "GZlhCFBpBBIl61BeGF"]⟩,
  ⟨["lepc", "lepcha"], ["ggH3BDODC"]⟩,
  ⟨["limb", "limbu"], ["goGeBLELEADL"]⟩,
  ⟨["lina", "lineara"], ["gwhC2JJVKH"]⟩,
  ⟨["linb", "linearb"], ["gggCLBZBSBBBOCNiB6D"]⟩,
  ⟨["lisu"], ["wmpBvBw1eA"]⟩,
  ⟨["lyci", "lycian"], ["g0gCc"]⟩,
  ⟨["lydi", "lydian"], ["gpiCZFA"]⟩,
  ⟨["mahj", "mahajani"], ["wqkCmB"]⟩,
  ⟨["maka", "makasar"], ["g3nCY"]⟩,
  ⟨["mlym", "malayalam"], ["goDMBCByBBCBFEPCZ"]⟩,
  ⟨["mand", "mandaic"], ["giCbCA"]⟩,
  ⟨["mani", "manichaean"], ["g2iCmBEL"]⟩,
  ⟨["marc", "marchen"], ["wjnCfCVBN"]⟩,
  ⟨["gonm", "masaramgondi"], ["gonCGBBBrBDABBBIIJ"]⟩,
  ⟨["medf", "medefaidrin"], ["gy7C6C"]⟩,
  ⟨["mtei", "meeteimayek"], ["g3qBWpGtBCJ"]⟩,
  ⟨["mend", "mendekikakui"], ["gg6DkGCP"]⟩,
  ⟨["merc", "meroiticcursive"], ["gtiCXETCtB"]⟩,
  ⟨["mero", "meroitichieroglyphs"], ["gsiCf"]⟩,
  ⟨["plrd", "miao"], ["g47CqCE4BHQ"]⟩,
  ⟨["modi"], ["gwlCkCLJ"]⟩,
  ⟨["mong", "mongolian"], ["ggGBCABTG4CHqB1t:BM"]⟩,
  ⟨["mroo", "mro"], ["gy6CeBJEB"]⟩,
  ⟨["mult", "multani"], ["g0kCGBABDBOBK"]⟩,
  ⟨["mymr", "myanmar"], ["ggE:EgqmBehDf"]⟩,
  ⟨["nbat", "nabataean"], ["gkiCeII"]⟩,
  ⟨["nagm", "nagmundari"], ["wm5DpB"]⟩,
  ⟨["nand", "nandinagari"], ["gtmCHCtBCK"]⟩,
  ⟨["talu", "newtailue"], ["gsGrBEZGKDB"]⟩,
  ⟨["newa"], ["gglC7CBE"]⟩,
  ⟨["nkoo", "nko"], ["g.B6BCC"]⟩,
  ⟨["nshu", "nushu"], ["h:7CAusQrM"]⟩,
  ⟨["hmnp", "nyiakengpuachuehmong"], ["go4DsBDNCJEB"]⟩,
  ⟨["ogam", "ogham"], ["g0Fc"]⟩,
  ⟨["olck", "olchiki"], ["wiHvB"]⟩,
  ⟨["hung", "oldhungarian"], ["gkjCyBNyBHF"]⟩,
  ⟨["ital", "olditalic"], ["g4gCjBJC"]⟩,
  ⟨["narb", "oldnortharabian"], ["g0iCf"]⟩,
  ⟨["perm", "oldpermic"], ["w6gCqB"]⟩,
  ⟨["xpeo", "oldpersian"], ["g9gCjBEN"]⟩,
  ⟨["sogo", "oldsogdian"], ["g4jCnB"]⟩,
  ⟨["sarb", "oldsoutharabian"], ["gziCf"]⟩,
  ⟨["orkh", "oldturkic"], ["ggjCoC"]⟩,
  ⟨["ougr", "olduyghur"], ["w7jCZ"]⟩,
  ⟨["orya", "oriya"], ["h4CCBHCBCVBGBBBECICBCCHCEBBECR"]⟩,
  ⟨["osge", "osage"], ["wlhCjBEjB"]⟩,
  ⟨["osma", "osmanya"], ["gkhCdCJ"]⟩,
  ⟨["hmng", "pahawhhmong"], ["g46ClCKJBGBUFS"]⟩,
  ⟨["palm", "palmyrene"], ["gjiCf"]⟩,
  ⟨["pauc", "paucinhau"], ["g2mC4B"]⟩,
  ⟨["phag", "phagspa"], ["giqB3B"]⟩,
  ⟨["phnx", "phoenician"], ["goiCbDA"]⟩,
  ⟨["phlp", "psalterpahlavi"], ["g8iCRHDMG"]⟩,
  ⟨["rjng", "rejang"], ["wpqBjBLA"]⟩,
  ⟨["runr", "runic"], ["g1FqCDK"]⟩,
  ⟨["samr", "samaritan"], ["ggCtBCO"]⟩,
  ⟨["saur", "saurashtra"], ["gkqBlCIL"]⟩,
  ⟨["shrd", "sharada"], ["gskC:C"]⟩,
  ⟨["shaw", "shavian"], ["wihCvB"]⟩,
  ⟨["sidd", "siddham"], ["gslC1BClB"]⟩,
  ⟨["sgnw", "signwriting"], ["gg2DrUPEBO"]⟩,
  ⟨["sinh", "sinhala"], ["hsDCBRDXBIBACGDAEFBABHGJCCs:gCT"]⟩,
  ⟨["sogd", "sogdian"], ["w5jCpB"]⟩,
  ⟨["sora", "sorasompeng"], ["wmkCYHJ"]⟩,
  ⟨["soyo", "soyombo"], ["wymCyC"]⟩,
  ⟨["sund", "sundanese"], ["g8G:BgIH"]⟩,
  ⟨["sylo", "sylotinagri"], ["ggqBsB"]⟩,
  ⟨["syrc", "syriac"], ["g4BNB7BCCwIK"]⟩,
  ⟨["tglg", "tagalog"], ["g4FVJA"]⟩,
  ⟨["tagb", "tagbanwa"], ["g7FMBCBB"]⟩,
  ⟨["tale", "taile"], ["wqGdCE"]⟩,
  ⟨["lana", "taitham"], ["gxG.BBcCKGJGN"]⟩,
  ⟨["tavt", "taiviet"], ["g0qBiCYE"]⟩,
  ⟨["takr", "takri"], ["g0lC5BGJ"]⟩,
  ⟨["taml", "tamil"], ["i8CBBFDCBDDBBABBDBDCDLEEDCBDCAGAOUl.kCxBNA"]⟩,
  ⟨["tnsa", "tangsa"], ["wz6CuCBJ"]⟩,
  ⟨["tang", "tangut"], ["g:7CAf3:FI:XgQI"]⟩,
  ⟨["telu", "telugu"], ["ggDMBCBWBPCIBCBDHBBCCACDCJHI"]⟩,
  ⟨["thaa", "thaana"], ["g8BxB"]⟩,
  ⟨["thai"], ["hwD5BFb"]⟩,
  ⟨["tibt", "tibetan"], ["g4DnCBjBEmBBjBBOBGEB"]⟩,
  ⟨["tfng", "tifinagh"], ["wpL3BHBOA"]⟩,
  ⟨["tirh", "tirhuta"], ["gklCnCIJ"]⟩,
  ⟨["toto"], ["w04De"]⟩,
  ⟨["ugar", "ugaritic"], ["g8gCdBA"]⟩,
  ⟨["vaii", "vai"], ["gopBrJ"]⟩,
  ⟨["vith", "vithkuqi"], ["wrhCKBOBGBBBKBOBGBB"]⟩,
  ⟨["wcho", "wancho"], ["g24D5BFA"]⟩,
  ⟨["wara", "warangciti"], ["glmCyCMA"]⟩,
  ⟨["yezi", "yezidi"], ["g0jCpBBCCB"]⟩,
  ⟨["yiii", "yi"], ["ggoBskBD2B"]⟩,
  ⟨["zanb", "zanabazarsquare"], ["gwmCnC"]⟩]

end Conformance.Unicode
