import Conformance.Unicode.CodePoints

/-!
# Segmentation classes

The classes by which texts are cut into user-perceived characters, words and sentences. A class
of its own for everything else is not listed.

The data are those of Unicode 15.0, packed as `Conformance.Unicode.NamedSet` says; every set is
given with all its names, in the spelling that `Conformance.Unicode.looseName` produces.
-/

namespace Conformance.Unicode

/-- The code points of each grapheme break class. -/
def graphemeBreaks : List NamedSet := [
  ⟨["cr"], ["NA"]⟩,
  ⟨["cn", "control"], ["AJBBBR:CgBNAurBAxvEA8:BACBYGxBPv03BAwHL0hNPgjiBDvmFHl0rYfgD:DwHvwD"]⟩,
  ⟨["ex", "extend"], [
    "gYvDzIGnIsBBABBBBBAoCKwBUQAlDGCFCBBDjBAea7CK6BIJAYDBIBCBErBC8BHqBXBf3BABAEHEADGKBdA6BABACDIA",
    "JAKBaACB5BAEBEBCCDAeBDALB5BAEEBBEAUBWFBA6BABBBDIAHCKBeA7BABAMAJAoBADA3BABCFCBDHBLBdA6BACACAD",
    "AFBHBLBcB5BBBACDIAJAKBdAoCAEACCBAIAxCACGMHiDACILGpCBbABABA3BNBEBBFKBjBJAmDDBFBBCBZBECQDNACBG",
    "APA:VCydCdBeBeBgCBBGIACKJAtBCBA1DBiBA2DCEBJAGC7GBCA6BABGBABACHGJCAwBexBDwBGBAFAoBIMBgBDCBBC4",
    "BABBDABC6BHCB4ECBMBGEAGADBmG:BsQAjGgB.:CCtEAgDfqRFpDB0udDBJgBBwCBwIADAEAZBFA3EBaRNAmBHZKuBCw",
    "BACDCBnBAjCFCBCBMAIAvBAzBABCCBFBBAqBBIAuHACAEAw5TAhXPQPuLB9SAiHA1EEm0BCBBFDoBCEAlFB9RDjMBwCC",
    "mCKxBD7DA2BOpBACBKCxBDCBHA9BCkBEBH.BAMB0BIKDCA:CCCABBGACA9EADHVB5BBBABAWAOGDEjGHCCBAXAxCACFB",
    "ACABBBBrHACDGBBBbB1CHCABBqDABACFBAlDCCDBEjIIBB1HAKBBAEAwEDCBEAgBJoBFCDIAJFCCuBMBB2MGBFBAyCVC",
    "GBBBB6DFDABBBGBAoCBDABA7KBLB0BEFABA9nFAGO60NE7BG4gBA:BDxCA4lTBhzEtBCW.QABCEEIHCGeD0EC79B2BEx",
    "BIAOAWEBOwqBGBQCGBBBEkDAgFG3LA9BD8PDgfGtDGw1CEghjY:CgEvH"]⟩,
  ⟨["l"], ["goE:CggmBc"]⟩,
  ⟨["lf"], ["KA"]⟩,
  ⟨["lv"], [
    "ggrBAbAbAbAbAbAbAbAbAbAbAbAbAbAbAbAbAbAbAbAbAbAbAbAbAbAbAbAbAbAbAbAbAbAbAbAbAbAbAbAbAbAbAbAb",
    "AbAbAbAbAbAbAbAbAbAbAbAbAbAbAbAbAbAbAbAbAbAbAbAbAbAbAbAbAbAbAbAbAbAbAbAbAbAbAbAbAbAbAbAbAbAb",
    "AbAbAbAbAbAbAbAbAbAbAbAbAbAbAbAbAbAbAbAbAbAbAbAbAbAbAbAbAbAbAbAbAbAbAbAbAbAbAbAbAbAbAbAbAbAb",
    "AbAbAbAbAbAbAbAbAbAbAbAbAbAbAbAbAbAbAbAbAbAbAbAbAbAbAbAbAbAbAbAbAbAbAbAbAbAbAbAbAbAbAbAbAbAb",
    "AbAbAbAbAbAbAbAbAbAbAbAbAbAbAbAbAbAbAbAbAbAbAbAbAbAbAbAbAbAbAbAbAbAbAbAbAbAbAbAbAbAbAbAbAbAb",
    "AbAbAbAbAbAbAbAbAbAbAbAbAbAbAbAbAbAbAbAbAbAbAbAbAbAbAbAbAbAbAbAbAbAbAbAbAbAbAbAbAbAbAbAbAbAb",
    "AbAbAbAbAbAbAbAbAbAbAbAbAbAbAbAbAbAbAbAbAbAbAbAbAbAbAbAbAbAbAbAbAbAbAbAbAbAbAbAbAbAbAbAbAbAb",
    "AbAbAbAbAbAbAbAbAbAbAbAbAbAbAbAbAbAbAbAbAbAbAbAbAbAbAbAbAbAbAbAbAbAbAbAbAbAbAbAbAbAbAbAbAbAb",
    "AbAbAbAbAbAbAbAbAbAbAbAbAbAbAbAbAbAbAbAbAbAbAbAbAbAbAbAbAbAbAbAbA"]⟩,
  ⟨["lvt"], [
    "hgrBaBaBaBaBaBaBaBaBaBaBaBaBaBaBaBaBaBaBaBaBaBaBaBaBaBaBaBaBaBaBaBaBaBaBaBaBaBaBaBaBaBaBaBaB",
    "aBaBaBaBaBaBaBaBaBaBaBaBaBaBaBaBaBaBaBaBaBaBaBaBaBaBaBaBaBaBaBaBaBaBaBaBaBaBaBaBaBaBaBaBaBaB",
    "aBaBaBaBaBaBaBaBaBaBaBaBaBaBaBaBaBaBaBaBaBaBaBaBaBaBaBaBaBaBaBaBaBaBaBaBaBaBaBaBaBaBaBaBaBaB",
    "aBaBaBaBaBaBaBaBaBaBaBaBaBaBaBaBaBaBaBaBaBaBaBaBaBaBaBaBaBaBaBaBaBaBaBaBaBaBaBaBaBaBaBaBaBaB",
    "aBaBaBaBaBaBaBaBaBaBaBaBaBaBaBaBaBaBaBaBaBaBaBaBaBaBaBaBaBaBaBaBaBaBaBaBaBaBaBaBaBaBaBaBaBaB",
    "aBaBaBaBaBaBaBaBaBaBaBaBaBaBaBaBaBaBaBaBaBaBaBaBaBaBaBaBaBaBaBaBaBaBaBaBaBaBaBaBaBaBaBaBaBaB",
    "aBaBaBaBaBaBaBaBaBaBaBaBaBaBaBaBaBaBaBaBaBaBaBaBaBaBaBaBaBaBaBaBaBaBaBaBaBaBaBaBaBaBaBaBaBaB",
    "aBaBaBaBaBaBaBaBaBaBaBaBaBaBaBaBaBaBaBaBaBaBaBaBaBaBaBaBaBaBaBaBaBaBaBaBaBaBaBaBaBaBaBaBaBaB",
    "aBaBaBaBaBaBaBaBaBaBaBaBaBaBaBaBaBaBaBaBaBaBaBaBaBaBaBaBaBaBaBaBa"]⟩,
  ⟨["pp", "prepend"], ["gwBF3GAxBAgMBwCArjBAu7gCAPA0HB77BABA4HApCF8VA7NA"]⟩,
  ⟨["ri", "regionalindicator"], ["mv8DZ"]⟩,
  ⟨["sm", "spacingmark"], [
    "joCA3BACCIDBByBB7BBGBCB2BA6BCiCA6BCIABB1BB8BAGBCByDABBDCBC0BC9BD9BB6BABBBBCBBBnBAOB7BBFCBC1B",
    "BsCBGGTB:BA:DAqEB:BAxFAJBZBsBAw0BAeAhEAHHBB6KDCCEBBFgHB6BABAVFxEA2BABEBB9BAeAEBCA8BACCBADBwB",
    "HIBrFAVAr5iBBCA4CByBPuEBvBAwBBEBCCuDBCBYA9EACBFAtHBBBBBBAzgZABA:DAtBCEBzDAYB7BAwBCJBNA9CCDBB",
    "AqFCfB7BABDCBCCUBxGCIBDArDBGABBBACAuHBGDCAxDCIBBAtDABBGAvDAlICJA4HEBBEACABAuECIDEA0CAdB.BA3M",
    "AOAqDAHACA1GEEBBA.KBMAwBBIBBAvgU2BoDB0rYAGA"]⟩,
  ⟨["t"], ["otE3CruxBwB"]⟩,
  ⟨["v"], ["grEnCowxBW"]⟩,
  ⟨["zwj"], ["tgIA"]⟩]

/-- The code points of each word break class. -/
def wordBreaks : List NamedSet := [
  ⟨["le", "aletter"], [
    "hCZGZvBAKAEAFWBeB:OGhBwDEBBCDBAGABCBABTByCBqEIlFBlBCDBABoBBAoDAsBqBjBBBiDBAPBHBKCCAQABdd4CLA",
    "YgBJBEAFVEAJADAXYHKFXBFRpB6B1BDASAHJPPEHCBCVBGBADDDAQANBBCOBKAIFEBCVBGBBBBBBfDBATCQIBCBVBGBB",
    "BEDASAPBXALHCBCVBGBBBEDAeBBCPARABFDCBDDBBABBDBDCDLWA0BHBCBWBPDAaCCACBeAEHBCBWBJBEDAfBBBPBRIB",
    "CBoBCAQAFCICYFFRDXBIBACG5JA:BHBjBbEzIlBBAFACqBBsKBDCGBABDCoBBDCgBBDCGBABDCOB4BBDCiClBPQ1CCFD",
    "rTCQBZFqCDKHRNSOROMBCvF4CHEChBBAFlCKehHWuHuBRH2BdNBKrBajBpBCKjBCIHqBCCpBDBFBBDAF:FgC1ICFClBC",
    "FCHBABABABeC0BBGBADCBGDDCFEMFCBG0DANAQMlDAEACJBADEGABABABDBKCDFEEARoBtZzB24BkHGDDBMlBBAFAC3B",
    "HAQWJGBGBGBGBGBGBGBGwCA1OA1BBoGqBB9CRfgybskBjCtBCsIDPKBUuBQeCvCYiGFBBABEYPBCBDBWdzBOxB.BFDAB",
    "BLbKWZcHuBcAwBoBXCBH0EKHCMFCFCFJGBGB5BGyDdj9KMWEwBk4IGME4BhDhBqLS:BC1BoBL0DEBmEkBZGZlCeDFCFC",
    "FCCjBLBZBSBBBOCNiB6DlC0BrIcDwBvBfNdFlBKdCjBEHBEqB9ESjBEjBEnBIzBMKBOBGBBBKBOBGBBjC2JJVKHYFBpB",
    "BIlCFCABrBBBDACWKWJehCSBBKVKZmC3BGBgCAPDBCBcqBcDcjBHBbb1BKVKSNRuDoC3ByBNyBNjB8KpBGBuCcKAIVqB",
    "RuBUbWM0B5BBCANsBgBYajBdACAIiBDAMvBODVABAjBRBYTB:BGBABDBOBJHuBmBHCBCVBGBBBEDASAME.E0BSDUCevB",
    "UBBA4FuBpBDkBvBUA7BqBNAnKrB0D:BfHCACHBBBXPABA.CHCmBQABAcAKnBHAVALtBTASoCnIIBkBRAxBdwDGBBBlBV",
    "AZFBBBfOAnKSPABMBhB8DAvC5cmDuDRjGsyCgDPvhBRF59DmS5tI4RHeRuCRdSvBQDfUFSwV:BgEqCFAiCMgCBBA8gTq",
    "DFMDIHJm7F0CBmCBBCACBCDBLBABGBgCBDCHBGBbBDBEBADGBzKCYBYBeBYBeBYBeBYBeBYBH05BeGFlI9ByEsBKGQAh",
    "KdSrBkPb0XGBDBBBOBkG7BjCHA0lBDBaBBBACABJBDBABAGAEABABABCBBBACABABABABABBBACDBGBDBDBABJBQFCBE",
    "BQ0TZGZGZ"]⟩,
  ⟨["cr"], ["NA"]⟩,
  ⟨["dq", "doublequote"], ["iBA"]⟩,
  ⟨["extend"], [
    "gYvDzIGnIsBBABBBBBAoCKwBUQAlDGCFCBBDjBAea7CK6BIJAYDBIBCBErBC8BHqBXBgB2BCBRBGKBdC4BABGCBCCJAK",
    "BaACC4BABEEBCCDAeBDALC4BABHBCBCUBWFBC4BABGCBCCHCKBeA7BEDCBDJAoBE3BABGBCBDHBLBdC4BABGBCBDHBLB",
    "PAMD3BBBGBCBDJAKBdCmCAEFBABHSB9BACGMHiDACILGpCBbABABAEBxBTBBFKBjBJAkDTXDECBCCGDDNLBAKD:VCydD",
    "cCdBeBgCfJAtBCBA1DBiBA2DLEL7GE5BJBcCAwBexBEvBQmBIMCeM4BNwBT4ECBUEAGACCmG:BsQAjGgB.:CCtEAgDfq",
    "RFpDB0udDBJgBBwCBwIADAEAXEEAzCByBRaRNAmBHZMsBDvBNkBAjCNMAIBtBCyBABCCBFBBApBEFBsHHBBw5TAhXPQP",
    "uLB9SAiHA1EEm0BCBBFDoBCEAlFB9RDjMBwCCmCKxBD6DC1BOpBACBKDtBKHA9BCkBNQBsBAMCwBNIDBB8CLGACA9ELV",
    "D3BBBGCBCCJAKBCGDEgGRXAxCTrHGCIbByCQqDMlDOgIO1HFBBCDBABBtEGCGDAcJoBGBDIAJKuBP1MHBHyCVBN6DFDA",
    "BBBGBAiCEBBBE7KDJBBAwBGDE9nFAGO60NE7BG4gBAB2BHDxCALBrlTBhzEtBCW.QEDFIHCGeD0EC79B2BExBIAOAWEB",
    "OwqBGBQCGBBBEkDAgFG3LA9BD8PDgfGtDGw1CEghjY:CgEvH"]⟩,
  ⟨["ex", "extendnumlet"], [":CAv.HAPBTA.u3BBYCvHA"]⟩,
  ⟨["fo", "format"], ["tFAyqBFWAgGAxBAgMBwCAr5DA::BBaExBEBJv03BA5HChmEAPAi7IPgjiBDvmFHm0rYA"]⟩,
  ⟨["hl", "hebrewletter"], ["wuBaEDqp9BABJBMBEBABBBBBJ"]⟩,
  ⟨["ka", "katakana"], ["xhMElDBD6CBDwHPwGuBB3CugzB3ByisBDBGBBBA:ICyBAOD"]⟩,
  ⟨["lf"], ["KA"]⟩,
  ⟨["ml", "midletter"], ["6BA8DAvWA3OA0EAyxGArv3BAhCAkGA"]⟩,
  ⟨["mn", "midnum"], ["sBAOAiaAqQAiEB.CArMAriGAru3BADA7BADA3FAOA"]⟩,
  ⟨["mb", "midnumlet"], ["uBAp:HBKAtx3BA0FAGA"]⟩,
  ⟨["nl", "newline"], ["LB4DAi9HB"]⟩,
  ⟨["nu", "numeric"], [
    "wBJmxBJBAkEJmGJ8MJ2DJ2DJ2DJ2DJ2DJ2DJ2DJ2DJ2DJgDJ2DJmCJ2IJmCJm6BJmBJsJJgEJmFJGJ2FJ2CJmEJGJmui",
    "BJmVJmBJmGJWJ2CJ2MJ24UJmsBJmkCJsZJgEJ8BJwEJ2IJ2KJ2DJ2LJmDJmDJmNJmDJ2XJ2HJmCJmNJm4SJ2CJmEJ0jb",
    "xBgqCJmNJ2PJ2iBJ20EJ"]⟩,
  ⟨["ri", "regionalindicator"], ["mv8DZ"]⟩,
  ⟨["sq", "singlequote"], ["nBA"]⟩,
  ⟨["wsegspace"], ["gBA:yFA:rCGBC0CAg9DA"]⟩,
  ⟨["zwj"], ["tgIA"]⟩]

/-- The code points of each sentence break class. -/
def sentenceBreaks : List NamedSet := [
  ⟨["at", "aterm"], ["uBA1:HAtx3BA7FA"]⟩,
  ⟨["cr"], ["NA"]⟩,
  ⟨["cl", "close"], [
    "iBAECxBABAdABAtBAPA.zDD96BB7rCHZBKB2BBOB5TDdBwhBFHNvCBfJzMV:BDgBBigBNOBCJYASHrNJCHBC.ozBB3GB",
    "cPCBQFpFBxBABAdABABBBBy49BC"]⟩,
  ⟨["ex", "extend"], [
    "gYvDzIGnIsBBABBBBBAoCKwBUQAlDGCFCBBDjBAea7CK6BIJAYDBIBCBErBC8BHqBXBgB2BCBRBGKBdC4BABGCBCCJAK",
    "BaACC4BABEEBCCDAeBDALC4BABHBCBCUBWFBC4BABGCBCCHCKBeA7BEDCBDJAoBE3BABGBCBDHBLBdC4BABGBCBDHBLB",
    "PAMD3BBBGBCBDJAKBdCmCAEFBABHSB9BACGMHiDACILGpCBbABABAEBxBTBBFKBjBJAkDTXDECBCCGDDNLBAKD:VCydD",
    "cCdBeBgCfJAtBCBA1DBiBA2DLEL7GE5BJBcCAwBexBEvBQmBIMCeM4BNwBT4ECBUEAGACCmG:BsQBiGgB.:CCtEAgDfq",
    "RFpDB0udDBJgBBwCBwIADAEAXEEAzCByBRaRNAmBHZMsBDvBNkBAjCNMAIBtBCyBABCCBFBBApBEFBsHHBBw5TAhXPQP",
    "uLB9SAiHA1EEm0BCBBFDoBCEAlFB9RDjMBwCCmCKxBD6DC1BOpBACBKDtBKHA9BCkBNQBsBAMCwBNIDBB8CLGACA9ELV",
    "D3BBBGCBCCJAKBCGDEgGRXAxCTrHGCIbByCQqDMlDOgIO1HFBBCDBABBtEGCGDAcJoBGBDIAJKuBP1MHBHyCVBN6DFDA",
    "BBBGBAiCEBBBE7KDJBBAwBGDE9nFAGO60NE7BG4gBAB2BHDxCALBrlTBhzEtBCW.QEDFIHCGeD0EC79B2BExBIAOAWEB",
    "OwqBGBQCGBBBEkDAgFG3LA9BD8PDgfGtDG12lY:CgEvH"]⟩,
  ⟨["fo", "format"], [
    "tFAyqBFWAgGAxBAgMBwCAr5DA8:BACBaExBEBJv03BA5HChmEAPAi7IPgjiBDvmFHm0rYA"]⟩,
  ⟨["lf"], ["KA"]⟩,
  ⟨["lo", "lower"], [
    "hDZvBAKAEAkBXBHBABABABABABABABABABABABABABABABABABABABABABABABABABABABBBABABABABABABABBBABAB",
    "ABABABABABABABABABABABABABABABABABABABABACABABCCABACADBEACADCCACABABACABBBACADABACBCCGACACAB",
    "ABABABABABABABBBABABABABABABABABBCABADABABABABABABABABABABABABABABABABABABABABABABABABABABAB",
    "ABABGCACBBAEABABABABkCBjBHBeEsEABADACDSAbiBBBDCBABABABABABABABABABABABEBACACBzBvBBABABABABAB",
    "ABABABABABABABABABABABAJABABABABABABABABABABABABABABABABABABABABABABABABABABACABABABABABABBB",
    "ABABABABABABABABABABABABABABABABABABABABABABABABABABABABABABABABABABABABABABABABABABABABABAB",
    "ABAwBoBz7CA7XFikCI3D:FhCABABABABABABABABABABABABABABABABABABABABABABABABABABABABABABABABABAB",
    "ABABABABABABABABABABABABABABABABABABABABABABABABABABABABABABABABABABABABABABABABIBABABABABAB",
    "ABABABABABABABABABABABABABABABABABABABABABABABABABABABABABABABABABABABABABABABABABABABIIFKHI",
    "HIFKHIHINCHIHIHIEBBGADCBBIDCBIHKCBB5DANAQMtDADBDAbAEAEACBIDEAhBPEAraZm6BvBBADBBABABAEABBBHDA",
    "BABABABABABABABABABABABABABABABABABABABABABABABABABABABABABABABABABABABABABABABABABABABABABA",
    "BABABBHABAEAMlBBAFAzoeABABABABABABABABABABABABABABABABABABABABABABATABABABABABABABABABABABAB",
    "ABClEABABABABABABCBABABABABABABABABABABABABABABABABABABABABABABABABABABABABABABJBABACABABABA",
    "BAEABACABCBABABABABABABABABABAFAFABABABABABABABAEABAGABABABABAYCBABC1ZqBBNGvCg6TGMEphBZtmBnB",
    "oEjB7EKBOBGBBjOACCBpBBIloByBt.CfgsVf6sZZaGBRaZaDBABGBKaZaZaZaZaZaZaZaZabcYBFaYBFaYBFaYBFaYBF",
    "BA05BJBTGFlI9B0lChB"]⟩,
  ⟨["nu", "numeric"], [
    "wBJmxBJBBjEJmGJ8MJ2DJ2DJ2DJ2DJ2DJ2DJ2DJ2DJ2DJgDJ2DJmCJ2IJmCJm6BJmBJsJJgEJmFJGJ2FJ2CJmEJGJmui",
    "BJmVJmBJmGJWJ2CJ2MJ24UJmsBJmkCJsZJgEJ8BJwEJ2IJ2KJ2DJ2LJmDJmDJmNJmDJ2XJ2HJmCJmNJm4SJ2CJmEJ0jb",
    "xBgqCJmNJ2PJ2iBJ20EJ"]⟩,
  ⟨["le", "oletter"], [
    "7NAEDwGAkBGGLaABAlEAkPA2DaEEsBqBjBBBiDBAPBHBKCCAQABdd4CLAYgBJBEAFVEAJADAXYHKFXBFRpB6B1BDASAH",
    "JPPEHCBCVBGBADDDAQANBBCOBKAIFEBCVBGBBBBBBfDBATCQIBCBVBGBBBEDASAPBXALHCBCVBGBBBEDAeBBCPARABFD",
    "CBDDBBABBDBDCDLWA0BHBCBWBPDAaCCACBeAEHBCBWBJBEDAfBBBPBRIBCBoBCAQAFCICYFFRDXBIBACG6BvBBBMG6BB",
    "BABEBXBABJBBJACEBAVDgBA:BHBjBbEzDqBUAQFEDDADBHCEMMAhCqBCrKBDCGBABDCoBBDCgBBDCGBABDCOB4BBDCiC",
    "lBPxDrTCQBZFqCDKHRNSOROMBCPzBjBAEAjC4CHEChBBAFlCKexBdCELrBEZ2BWJ0ByCA9CuBRH2BdNBKrBajBpBCKjB",
    "SqBCCpBDBFBBDA6hBDnCCCDn9C3BHAQWJGBGBGBGBGBGBGBGwCA1OCZIHECEE1CGCB5CBDFqBB9CRfwBPgQ:tGgCs0Vj",
    "CtBCsIDPKBiCAQAgBvCnBIoDAGAnDADGBCBDBWdzBOxB.BFDABBLbKWZcHuBcAQEBJKEBoBXCBHUWDADxBBADBCECABA",
    "YCCKHCMFCFCFJGBGxEiBdj9KMWEwBkoItLCpDjCABJBMBEBABBBBBrDhBqLS:BC1BoBL0DEBmEpD3BCeDFCFCFCCjBLB",
    "ZBSBBBOCNiB6DlC0BrIcDwBvBfNdFlBKdCjBEHBE6DtCiDnBIzB8E2JJVKHZB9DFCABrBBBDACWKWJehCSBBKVKZmC3B",
    "GBgCAPDBCBcqBcDcjBHBbb1BKVKSNRuDoC3FjB8KpBGBuCcKAIVqBRuBUbWM0B5BBCANsBgBYajBdACAIiBDAMvBODVA",
    "BAjBRBYTB:BGBABDBOBJHuBmBHCBCVBGBBBEDASAME.E0BSDUCevBUBBA4FuBpBDkBvBUA7BqBNAnCalBG5FrBzGHCAC",
    "HBBBXPABA.CHCmBQABAcAKnBHAVALtBTASoCnIIBkBRAxBdwDGBBBlBVAZFBBBfOAnKSPABMBhB8DAvC5cmDuDRjGsyC",
    "gDPvhBRF59DmS5tI4RHeRuCRdSvBQDfUFSwbqCFAiCMgCBBAc3:FI1mBqBIn3IDBGBBBiJPAdCCAODIrMkoCqDFMDIHJ",
    "wzIA1PsBKGQAhKdSrBkPb0XGBDBBBOBkGmEA0lBDBaBBBACABJBDBABAGAEABABABCBBBACABABABABABBBACDBGBDBD",
    "BABJBQFCBEBQkqE:2pBgB5hEG9GCh0FOwpH:gD9QivBq6EF:iE"]⟩,
  ⟨["sc", "scontinue"], ["sBBMAipBAuFBqPApgEAFAqgCBs:DAuwzBBBAdBdBDACAKAoFBMApCA"]⟩,
  ⟨["st", "sterm"], [
    "hBAdApqBAzEC0FArBC2HA9BABADBlJBk3BB2YAEBlYAmGBsGAFA6JBiLDuFBCBdB8FBhCB8dBJCkvDANAWBtNA8ndAuI",
    "BjHADA.LB2CB:CA4EBzECwEB5HAqzUBpFAdAhCA03CB9nBEsBD9FB1DD:DChEBGAQB4CBBBsDAhNB1LBFOpDB5HClQAB",
    "A7HB3CBkNB0VBqCBp5SBlEAhCBLAzaAmwTAovHA"]⟩,
  ⟨["se", "sep"], ["lEAi9HB"]⟩,
  ⟨["sp"], ["JABBTA:DA:uFA:rCKkBAvBAg9DA"]⟩,
  ⟨["up", "upper"], [
    "hCZlDWBGhBABABABABABABABABABABABABABABABABABABABABABABABABABABABACABABABABABABABACABABABABAB",
    "ABABABABABABABABABABABABABABABABABABBBABADBBABBBCCDBBBCDBBBBABABBBACABBBCBABBDAHBBBBBBABABAB",
    "ABABABABACABABABABABABABABACBBABCBABABABABABABABABABABABABABABABABABABABABABABABABABABABABAH",
    "BBBCABDBABABABAhJABADAIAGABCBABBBQBIjBACCDABABABABABABABABABABABAFACABBCyBwBABABABABABABABAB",
    "ABABABABABABABABAJABABABABABABABABABABABABABABABABABABABABABABABABABABABBBABABABABABACABABAB",
    "ABABABABABABABABABABABABABABABABABABABABABABABABABABABABABABABABABABABABABABABABABABABABAClB",
    "p6ClBBAFAyW1CqwCABABABABABABABABABABABABABABABABABABABABABABABABABABABABABABABABABABABABABAB",
    "ABABABABABABABABABABABABABABABABABABABABABABABABABABABABABABABABABABABABAJABABABABABABABABAB",
    "ABABABABABABABABABABABABABABABABABABABABABABABABABABABABABABABABABABABABABABABAJHIFKHIHIFLAB",
    "ABABAIHYHIHIHIELELDMELElIAEADCCCCADEGABABABDCDKBFAaPTAyZZw5BvBwBABCCABABABDBACAICBABABABABAB",
    "ABABABABABABABABABABABABABABABABABABABABABABABABABABABABABABABABABABABABABABABABABABABAIABAE",
    "AtqeABABABABABABABABABABABABABABABABABABABABABABATABABABABABABABABABABABABABAnEABABABABABABA",
    "DABABABABABABABABABABABABABABABABABABABABABABABABABABABABABABAKABABBBABABABAEABACABADABABABA",
    "BABABABABABABEBEBABABABABABABABDBAGAFABAcAr5VZlmBnBoEjB8EKBOBGBBq3ByBt:CfgsVfgtZZaZaZaABBCAC",
    "BCDBHaZaBBDCHBGbBBDBEBADGbZaZaZaZaZaZeYhBYhBYhBYhBYhBA1pEhBugCZGZGZ"]⟩]

end Conformance.Unicode
