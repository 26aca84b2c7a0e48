import Conformance.Unicode.CodePoints

/-!
# Script extensions

Some code points are used in several scripts. This module lists the code points used in a script
for those scripts where they are not just the code points that belong to it
(`Conformance.Unicode.scripts`).

The data are those of Unicode 15.0, packed as `Conformance.Unicode.NamedSet` says; every set is
given with all its names, in the spelling that `Conformance.Unicode.looseName` produces.
-/

namespace Conformance.Unicode

/-- The code points used in each script that shares some with others. -/
def scriptExtensions : List NamedSet := [
  ⟨["adlm", "adlam"], [":wBAgBA:14DrCEJEB"]⟩,
  ⟨["arab", "arabic"], [
    "gwBEB2GBhBwCvBwHeBBGpCBcwy8ByDQ8NC1BHAgBPwDEBmEjfbk7Ce.DCg43BDBaBBBACABJBDBABAGAEABABABCBBBA",
    "CABABABABABBBACDBGBDBDBABJBQFCBEBQ0BB"]⟩,
  ⟨["beng", "bengali"], ["xqCBRBaDBHCBCVBGBADDCICBCDIAEBBECYx2EABACBBAIAIACAEACC5:iBA"]⟩,
  ⟨["bopo", "bopomofo"], ["qXB1oLCEJBMKDCAGAjGAJqBwDflkzBB6IE"]⟩,
  ⟨["bugi", "buginese"], ["gwGbCBv9jBA"]⟩,
  ⟨["buhd", "buhid"], ["15FBJT"]⟩,
  ⟨["cakm", "chakma"], ["mvCJwyBJ2lgC0BBR"]⟩,
  ⟨["zyyy", "common"], [
    "AgCaFauBBOBEXAfAhOmBFECT0DAJAGABA9TA3GAkQA8qBA1MDy4BCyoCLCgBB0BBKDKBORgB:BlBBCCFBaBQpBCE2UZK",
    "V:cgIzTCfBoDgQiCBZyMLEADANANAVAxQXfAxBOMDhFJF:CfAguG:BooWZmDCweAOBk1UJWUCLBSBDzEABfaFaF:DGBG",
    "KEyMMzBsBzqzBzD8B1HKmBC9BDQIBHdE8B1GTMTM2CbGnE0CBmCBBCACBCDBLBABGBgCBDCHBGBbBDBEBADGBzKCjJCx",
    "BxjFjCsC8BiWrBEjDMOCOBOBkBKtF4BZBBNrBEIXF6E3eEQDMD2DE.CGLEAPLE3BIJGnBIdCBuCzKMNCMDIHtBBGINEI",
    "HIHyEB2BlBJnghYAe:C"]⟩,
  ⟨["copt", "coptic", "qaac"], ["ifNwkKzDFGgv1Bb"]⟩,
  ⟨["cprt", "cypriot"], ["gogCCEsBDIg2BFCABrBBBDACA"]⟩,
  ⟨["cpmn", "cyprominoan"], ["gogCBu0LiD"]⟩,
  ⟨["cyrl", "cyrillic"], ["ggBvJw6FIiFAsCA:DAn:DfjCA8:d:Cu8VBgw4B9BhBA"]⟩,
  ⟨["deva", "devanagari"], ["goCyCCqBw6EmBBB2fA:5hBJmFfgwcJ"]⟩,
  ⟨["dogr", "dogra"], ["krCLg2nBJm.b7B"]⟩,
  ⟨["dupl", "duployan"], ["ggvDqDFMDIHJCH"]⟩,
  ⟨["geor", "georgian"], ["glElBBAFACvBw8CqBCCgiElBBAFA"]⟩,
  ⟨["glag", "glagolitic"], ["kkBACA47J:CjPArheAwsuCGBQCGBBBE"]⟩,
  ⟨["gran", "grantha"], ["xqCBRBgUN8mEABBeCDB2fAvw8BDBHCBCVBGBBBEBJCBCCCAGAFGCGDE7iDBBA"]⟩,
  ⟨["grek", "greek"], [
    "iaACAqBDBCCDBAEABABCBABTB.BOPmpGEyBEEE0CC.JVCFClBCFCHBABABABeC0BBOBNCFBSCCBInJA.xiBA6uVuCRA:",
    "i0BlC"]⟩,
  ⟨["gujr", "gujarati"], ["xqCBRB7ICBIBCBVBGBBBECJBCBCCAPDCLHGwpnBJ"]⟩,
  ⟨["gong", "gunjalagondi"], ["krCB6:kCFBBBkBBBBFHJ"]⟩,
  ⟨["guru", "gurmukhi"], ["xqCBRB7ECBFEBCVBGBBBBBBCABEEBCCDAHDBAHQ5tnBJ"]⟩,
  ⟨["hani", "han"], [
    "g0LZB4CM1GrBCBMBMBMCAGI7FA0EPgBjB8BnB4BwBPLzBA4CYKEgDeB:tGgC:vUg4BH4vUtLCpDrbB6IE8jcBMBu7YR.",
    "2HButD:2pBgB5hEG9GCh0FOwpH:gD9QivBq6EF:iE"]⟩,
  ⟨["hang", "hangul"], ["goE:HhwHCEJBMOCGAjGA1B9CxDehCeh3dcjUj9KMWEwBpyJB6IE6BeDFCFCFCC"]⟩,
  ⟨["rohg", "hanifirohingya"], ["swBAOADAgBAzEArxhCnBIJ"]⟩,
  ⟨["hano", "hanunoo"], ["g5FW"]⟩,
  ⟨["hira", "hiragana"], ["hgMCEJBMQFBAEBD1CCH6CBoqzBB6IEKAtBBhjsB.ISAdCtlQA"]⟩,
  ⟨["zinh", "inherited", "qaai"], [
    "gYhCBBBcwvBB7qEezX1BBABEsQBiGfwo3BPQNveAiozBtBCWgRCRHCGeDy6rYvH"]⟩,
  ⟨["java", "javanese"], ["gsqBtCBKEB"]⟩,
  ⟨["kthi", "kaithi"], ["mrCJg2nBJmiaiCKA"]⟩,
  ⟨["knda", "kannada"], ["xqCBRB6YMBCBWBJBECIBCBDHBGBBDCJBC8.DABAHAXABA75iBF"]⟩,
  ⟨["kana", "katakana"], ["hgMCEJBMQFBAEB7CDD:CwHPwGuBB3Ct3yBB6I.BwisBDBGBBBA:ICyBAOD"]⟩,
  ⟨["kali", "kayahli"], ["goqBvB"]⟩,
  ⟨["khoj", "khojki"], ["m3CJgqnBJmuaRBuB"]⟩,
  ⟨["sind", "khudawadi"], ["krCBq2nBJ2za6BFJ"]⟩,
  ⟨["latn", "latin"], [
    "hCZGZvBAPAFWBeBgOnBE.DM1IBqmBBo9BAkgDlBGwBFDFMBlChC:HvJAhCANAQMzCA5BBGAbARoB32Cfg0eHalDD:BFB",
    "BABEYNuJAhQqBBIBD28TG6gBZGZlhCFBpBBIl61BeGF"]⟩,
  ⟨["limb", "limbu"], ["lrCA68DeBLELEADL"]⟩,
  ⟨["lina", "lineara"], ["nogCsBsmB2JJVKH"]⟩,
  ⟨["linb", "linearb"], ["gggCLBZBSBBBOCNiB6DFCEsBDI"]⟩,
  ⟨["mahj", "mahajani"], ["krCLg2nBJ2oamB"]⟩,
  ⟨["mlym", "malayalam"], ["xqCBRB6cMBCByBBCBFEPCZ66DA16iBC"]⟩,
  ⟨["mand", "mandaic"], ["gyBA:PbCA"]⟩,
  ⟨["mani", "manichaean"], ["gyBA:jhCmBEL"]⟩,
  ⟨["gonm", "masaramgondi"], ["krCB68kCGBBBrBDABBBIIJ"]⟩,
  ⟨["modi"], ["whqBJmubkCLJ"]⟩,
  ⟨["mong", "mongolian"], ["ggGZG4CHqBk8BAwx9BM"]⟩,
  ⟨["mult", "multani"], ["mzCJwgiCGBABDBOBK"]⟩,
  ⟨["mymr", "myanmar"], ["ggE:EukmBAxFehDf"]⟩,
  ⟨["nand", "nandinagari"], ["krCBgcJ5:DAIAHA15iBFqrcHCtBCK"]⟩,
  ⟨["nkoo", "nko"], ["swBAOADAgN6BCC.p9BB"]⟩,
  ⟨["perm", "oldpermic"], ["jkBAs2:BqB"]⟩,
  ⟨["ougr", "olduyghur"], ["gyBAxlhCA9jBZ"]⟩,
  ⟨["orya", "oriya"], ["xqCBRB7MCBHCBCVBGBBBECICBCCHCEBBECRirEAXA"]⟩,
  ⟨["phag", "phagspa"], ["igGBBA6hkB3B"]⟩,
  ⟨["phlp", "psalterpahlavi"], ["gyBA:phCRHDMG"]⟩,
  ⟨["shrd", "sharada"], ["xqCAl8EABACBCA:k9B:C"]⟩,
  ⟨["sinh", "sinhala"], ["krCB7gBCBRDXBIBACGDAEFBABHGJCCs:gCT"]⟩,
  ⟨["sogd", "sogdian"], ["gyBAvniCpB"]⟩,
  ⟨["sylo", "sylotinagri"], ["krCBgEJwwnBsB"]⟩,
  ⟨["syrc", "syriac"], ["swBAOBCAgBAKKaAvENB7BCCwIKtsFABA"]⟩,
  ⟨["tglg", "tagalog"], ["g4FVJAVB"]⟩,
  ⟨["tagb", "tagbanwa"], ["15FBpBMBCBB"]⟩,
  ⟨["tale", "taile"], ["giEJmoCdCE"]⟩,
  ⟨["takr", "takri"], ["krCBq2nBJmyb5BGJ"]⟩,
  ⟨["taml", "tamil"], ["xqCBRB8QBBFDCBDDBBABBDBDCDLEEDCBDCAGAOU:mEA4gjBAtwaABA3BBjkDxBNA"]⟩,
  ⟨["telu", "telugu"], ["xqCBRB6UMBCBWBPCIBCBDHBBCCACDCJHI6iEAXA"]⟩,
  ⟨["thaa", "thaana"], ["swBAOBCAgCJ2IxBgy9BAKA"]⟩,
  ⟨["tirh", "tirhuta"], ["xqCBRBs8EA95iBJmibnCIJ"]⟩,
  ⟨["yezi", "yezidi"], ["swBAOADAgCJ2giCpBBCCB"]⟩,
  ⟨["yiii", "yi"], ["hgMBFJCH:GAk4bskBD2B60WE"]⟩]

end Conformance.Unicode
