import Conformance.Unicode.CodePoints

/-!
# General categories

Every code point has exactly one general category; this module lists the code points of each of
them. Surrogates are left out, for they are no characters. The groups of categories (letters,
marks, …) are put together in `Conformance.Unicode.Property`.

The data are those of Unicode 15.0, packed as `Conformance.Unicode.NamedSet` says; every set is
given with all its names, in the spelling that `Conformance.Unicode.looseName` produces.
-/

namespace Conformance.Unicode

/-- The code points of each general category. -/
def generalCategories : List NamedSet := [
  ⟨["cc", "cntrl", "control"], ["Af:CgB"]⟩,
  ⟨["cf", "format"], [
    "tFAyqBFWAgGAxBAgMBwCAr5DA8:BEaExBEBJv03BA5HChmEAPAi7IPgjiBDvmFHm0rYAe:C"]⟩,
  ⟨["cn", "unassigned"], [
    "4bBGDHABAUAtMAmBByBBDA3BHbDGKuIA8BBlDN7BBxBBPAcBBALEfACFsHAIBCBWAHABCEBJBCBEHBDCAFBZBDAGDCBW",
    "AHACACACBBAFDCBDCBGEABGRJDAJADAWAHACAFBKADADBBOEBMGHADAIBCBWAHACAFBJBCBDGDDCAFBSJCAGCDAECCAB",
    "ACCCCDCMDFCDAEBBFBNVENADAXAQBJADAEGCADBBBEBKGWADAXAKAFBJADAEGCFCAEBKADLNADAzBADAGDQBaADASCYA",
    "JABBHCBDGABAIFKBDL6BDdkBCABAFAYABAXBFABAHAKBEfoCAkBDnBAkBAPANkBmGABEBB5LAEBHABAEBpBAEBhBAEBH",
    "ABAEBPA5BAEBjCBgBCaF2CBGB9UC5CGWIYIULNADACL.CBKFKFaF5CGrBEmCJfAMDMDBCqBBFKsBDaFLC.BBhCAdBLFK",
    "FOBfwBtCCvBA0DH8BCPC8BGrBBLHrBE2QBGBmBBGBIABABABAfB1BAPAOBGATBDAJAlDAMBbANChBOhBOsED3UYLU04B",
    "BgBA9KEtBABEBB4BGCNYIHAHAHAHAHAHAHAHA.DhBaA5CL2GZMDgCA2CBnDErBA.CA0CLvBAtzcC3BI8KT4FHrGECABA",
    "FX7BCKF4BHmCHMF0DKeCuCALDhBA3BIOBKBnDXcJGBGBGIHAHA8BD.DBKFk9KLXDxBDuzIBqDlBHLFEaAFABACACA9DP",
    "9NB2BGBfqBFzBATAEDFAnEBBA.FCGBGBGBDCHAHJFBMAaATACAPBOhB7DEDDtBC4CANCBuBuBhEdCxBOcDkBIeErBEeA",
    "lBDOpB.EBKFkBDkBDoBH0BKMAPAHACALAPAHACiC3JIWJIXGAqBAJkCGBBAsBACCBBXAoCHJvBTACEhBCbEB:B4BDUBy",
    "BACEIADAdBDDKGJGgCfnBDMI2BCdBbEaGELHvCpC2BzBMzBGuBHKlJfAqBADBCqCrBHqBValBcTXIuCDkBIkCJBBZGKF",
    "1BASHnBIgDAUKSAvB9BHABAEAPALF7BEKFEAIBCBWAHACAFAKBCBDBBFBEHBHCFqE8CAFdoCHKlF2BBmBhBlCKKFNS6B",
    "FK1BbBPDX4F8BjDzCLIBBBIACAeACBMIKlCIBuBBLaoCHzCMpCGK1HJAtBAOJdCgBBWAOoCHACAsBCBACAJHKFGACAlB",
    "ACAGGK1JZGRApBCc1CBOyBM7clDvDAFKkGryCjDM2iBp9DnS4tI5RGfAKDxCAKFeBGJmCJKAHAVETvV7CkDrCD5BGR:B",
    "FKCN4:FH2mBpBJm3IEAHACAjJOBcDBBNEHsMjoCrDENCJGKBI7yEuBBXI0D7B2HJnBBiGUmC5DULUL3CIZmE1CAnCACB",
    "BBCBEAMABAHAhCAEBIAHAcAEAFABCHA0KBkJB.VOFAPviBfFG0GHARBHACAFE.BgBBvDtBCOBKDC:JfQ6BEBvOqBlXHA",
    "EACAPAlGBQoBsCDKDCwYkCrC9BhGEAbACABBBAKAEABABFBDBABABADACABBBABABABABACABBEAHAEAEABAKAREDAFA",
    "RzBCtIsBDkDLPBPAPAlBJuF3BdMsBDJGCNG5E4eDRCNC3DD:CFMDBOMD4BHKFoBHeBCtC0KLOBNCJGuBAHHODJGJGzEA",
    "3BkBKlgBg3pBf6hEF.GBi0FNxpH.gD.QhvBr6EEgjEwi3VBdgD:DwHvw:B.::BB.::BB"]⟩,
  ⟨["co", "privateuse"], ["gg4B:nGg4hc9::BC9::B"]⟩,
  ⟨["ll", "lowercaseletter"], [
    "hDZ6BApBXBHBABABABABABABABABABABABABABABABABABABABABABABABABABABABBBABABABABABABABBBABABABAB",
    "ABABABABABABABABABABABABABABABABABABACABABCCABACADBEACADCCACABABACABBBACADABACBCCGACACABABAB",
    "ABABABABABBBABABABABABABABABBCABADABABABABABABABABABABABABABABABABABABABABABABABABABABABABAB",
    "GCACBBAEABABABABkCBahGABADADCSAbiBBBDCBABABABABABABABABABABABEBACACBzBvBBABABABABABABABABABA",
    "BABABABABABABAJABABABABABABABABABABABABABABABABABABABABABABABABABABACABABABABABABBBABABABABA",
    "BABABABABABABABABABABABABABABABABABABABABABABABABABABABABABABABABABABABABABABABABABABAwBoBn6",
    "CqBCC4XFikCI3DrB:BMBhBmDABABABABABABABABABABABABABABABABABABABABABABABABABABABABABABABABABAB",
    "ABABABABABABABABABABABABABABABABABABABABABABABABABABABABABABABABABABABABABABABABIBABABABABAB",
    "ABABABABABABABABABABABABABABABABABABABABABABABABABABABABABABABABABABABABABABABABABABABIIFKHI",
    "HIFKHIHINCHIHIHIEBBGADCBBIDCBIHKCBByIADBDAbAEAEACBIDEA1BAr1CvBBADBBABABAEABBBFFABABABABABABA",
    "BABABABABABABABABABABABABABABABABABABABABABABABABABABABABABABABABABABABABABABABABABABBHABAEA",
    "MlBBAFAzoeABABABABABABABABABABABABABABABABABABABABABABATABABABABABABABABABABABABABAnEABABABA",
    "BABABCBABABABABABABABABABABABABABABABABABABABABABABABABABABABABABABABHBABACABABABABAEABACABC",
    "BABABABABABABABABABAFAFABABABABABABABAEABAGABABABABAcADA1ZqBFIHvCg6TGMEphBZtmBnBoEjB7EKBOBGB",
    "Bj4ByBt.CfgsVf6sZZaGBRaZaDBABGBKaZaZaZaZaZaZaZaZabcYBFaYBFaYBFaYBFaYBFBA05BJBTGF3vChB"]⟩,
  ⟨["lm", "modifierletter"], [
    "wVRELOEHABAlEAFA.OAmHAkFBtIBEAfAJADAgFAnFA0mBA:DA1RA62BArDAjTAwOFuF.BNAiBkBxVANAQM:.CBxHA:FA",
    "1OArBEFAhDB9CC24bAinBFuIAyDAcB5DIwCAXApDCDB1OAWApEAsDAVBnDDJAmgVAtBBg:BFBpBBIl8YDviBMgCBBAsg",
    "QDBGBBxhM9BpGGtdA:iBA"]⟩,
  ⟨["lo", "otherletter"], [
    "qFAPAgIAEDwGA7ZaEDtBfBJjBBBiDBAYBKCCAQABdd4CLAYgBVVqBYHKFXBFRoB7B1BDASAHJQOEHCBCVBGBADDDAQAN",
    "BBCOBKAIFEBCVBGBBBBBBfDBATCQIBCBVBGBBBEDASAPBXALHCBCVBGBBBEDAeBBCPARABFDCBDDBBABBDBDCDLWA0BH",
    "BCBWBPDAaCCACBeAEHBCBWBJBEDAfBBBPBRIBCBoBCAQAFCICYFFRDXBIBACG6BvBBBMF7BBBABEBXBABJBBJACEXDgB",
    "A:BHBjBbEzDqBUAQFEDDADBHCEMMAxDoKBDCGBABDCoBBDCgBBDCGBABDCOB4BBDCiClBPxDrTCQBZFqCGHHRNSOROMB",
    "CPzBoBAjCiBB0BHEChBBAFlCKexBdCELrBEZ2BWJ0BwFuBRH2BdNBKrBajBpBCKdxDDBFBBDA6hBD3:C3BYWJGBGBGBG",
    "BGBGBGBGnRA1BAE1CIAB5CEAFqBB9CRfwBPgQ:tGgC0wUB2jBjCnBIrIEPKBiCAxBlCpFAnDADGBCBDBWdzBOxB.BFDA",
    "BBLbKWZcHuBtBECIKEBoBXCBHUPBFDADxBBADBCECABAYBDKHAOFCFCFJGBGxEiBdj9KMWEwBkoItLCpDjCABJBMBEBA",
    "BBBBBrDhBqLS:BC1BoBL0DEBmEpDJBsBCeDFCFCFCCjBLBZBSBBBOCNiB6DlMcDwBvBfNTBHGlBKdCjBEHgEtCiDnBIz",
    "B8E2JJVKH4EFCABrBBBDACWKWJehCSBBKVKZmC3BGBgCAPDBCBcqBcDcjBHBbb1BKVKSNRuDoC3FjB8KpBGBuCcKAIVq",
    "BRuBUbWM0B5BBCANsBgBYajBdACAIiBDAMvBODVABAjBRBYTB:BGBABDBOBJHuBmBHCBCVBGBBBEDASAME.E0BSDUCev",
    "BUBBA4FuBpBDkBvBUA7BqBNAnCalBG5FrBzGHCACHBBBXPABA.CHCmBQABAcAKnBHAVALtBTASoCnIIBkBRAxBdwDGBB",
    "BlBVAZFBBBfOAnKSPABMBhB8DAvC5cmHjGsyCgDPvhBRF59DmS5tI4RHeRuCRdSvBzBUFSwbqCFAvF3:FI1mBqBI33Ii",
    "JPAdCCAODIrMkoCqDFMDIHJwzIA1PsBhBAhKdSrBkPa1XGBDBBBOBkG7pBDBaBBBACABJBDBABAGAEABABABCBBBACAB",
    "ABABABABBBACDBGBDBDBABJBQFCBEBQkqE:2pBgB5hEG9GCh0FOwpH:gD9QivBq6EF:iE"]⟩,
  ⟨["lt", "titlecaseletter"], ["lOACACAmBA1sHHIHIHMAPAvBA"]⟩,
  ⟨["lu", "uppercaseletter"], [
    "hCZlDWBGhBABABABABABABABABABABABABABABABABABABABABABABABABABABABACABABABABABABABACABABABABAB",
    "ABABABABABABABABABABABABABABABABABABBBABADBBABBBCCDBBBCDBBBBABABBBACABBBCBABBDAHACACACABABAB",
    "ABABABABACABABABABABABABABACACABCBABABABABABABABABABABABABABABABABABABABABABABABABABABABABAH",
    "BBBCABDBABABABAhJABADAIAGABCBABBBQBIjBACCDABABABABABABABABABABABAFACABBCyBwBABABABABABABABAB",
    "ABABABABABABABABAJABABABABABABABABABABABABABABABABABABABABABABABABABABABBBABABABABABACABABAB",
    "ABABABABABABABABABABABABABABABABABABABABABABABABABABABABABABABABABABABABABABABABABABABABAClB",
    "p6ClBBAFAyW1C6kCqBCCgKABABABABABABABABABABABABABABABABABABABABABABABABABABABABABABABABABABAB",
    "ABABABABABABABABABABABABABABABABABABABABABABABABABABABABABABABABABABABABABABABAJABABABABABAB",
    "ABABABABABABABABABABABABABABABABABABABABABABABABABABABABABABABABABABABABABABABABABABAJHIFKHI",
    "HIFLABABABAIHoCDMDMDMELDmIAEADCCCCADEGABABABDCDKBFA9BA8zCvBwBABCCABABABDBACAICBABABABABABABA",
    "BABABABABABABABABABABABABABABABABABABABABABABABABABABABABABABABABABABABABABABABABABAIABAEAtq",
    "eABABABABABABABABABABABABABABABABABABABABABABATABABABABABABABABABABABABABAnEABABABABABABADAB",
    "ABABABABABABABABABABABABABABABABABABABABABABABABABABABABABAKABABBBABABABAEABACABADABABABABAB",
    "ABABABABABEBEBABABABABABABABDBAGAFABAcAr5VZlmBnBoEjB8EKBOBGBBq3ByBt:CfgsVfgtZZaZaZaABBCACBCD",
    "BHaZaBBDCHBGbBBDBEBADGbZaZaZaZaZaZeYhBYhBYhBYhBYhBA1pEhB"]⟩,
  ⟨["mc", "spacingmark"], [
    "joCA3BACCIDBByBB6BCGBCBKArBA6BCiCA6BCIABB1BB6BABAGBCBKAmDBBBDCBCKApBC9BD9BB6BABECBBBJBcAOB6B",
    "CFCBCKAqBBrCCGHSBqKB:BArFBEAGACBZBKCCGVBCFCAKC4zBAeAhEAHHBB6KDCCEBBFgHB6BABAJABBIFxEAwBAFABE",
    "BB9BAeAEBCA8BACCBADBwBHIBrFAVA25EBz:dBCA4CByBPuEBvBAwBBEBCCuDBCBYAtBABAtDACBFAtHBBBBBBAzgZAB",
    "A:DAtBCEBzDAYB7BAwBCJBNA9CCDBBAqFCfB6BBBDCBCCJAKBxGCIBDAqDCGABDCAtHCGDCAxDCIBBAtDABBGApDBEAl",
    "ICJA3HFBBEACABAuECIDEA0CAdB.BA3MAOAqDAHACA1GEEBBA.KBMAwBBIBBAvgU2BoDBzrYBGF"]⟩,
  ⟨["me", "enclosingmark"], ["okBB0xFA.wBDBCrshBC"]⟩,
  ⟨["mn", "nonspacingmark"], [
    "gYvDzIEpIsBBABBBBBAoCKwBUQAlDGCFCBBDjBAea7CK6BIJAYDBIBCBErBC8BHqBXBf3BABAEHEADGKBdA6BAEDIAUB",
    "aACB5BAEBEBCCDAeBDALB5BAEEBBEAUBWFBA6BACABDIAHBLBeA9BAMAyBADA3BABCFCBDHBLBdA6BACAGAFBUBcB5BB",
    "EDIAUBdAoCAHCBA6CACGMHiDACILGpCBbABABA3BNBEBBFKBjBJAmDDBFBBCBZBECQDNACBGAPA:VCydCdBeBeBgCBBG",
    "IACKJAtBCBA1DBiBA2DCEBJAGC7GBCA6BABGBABACHGJCAwBNBPxBDwBABEBAFAoBIMBgBDCBBC4BABBDABC6BHCB4EC",
    "BMBGEAGADBmG:BwWMEADL.:CCtEAgDfqRDrDB0udAEJgBBwCBwIADAEAZBFA3EBaRNAmBHZKuBCwBACDCBnBAjCFCBCB",
    "MAIAvBAzBABCCBFBBAqBBIAuHACAEAw5TAhXPQPteAiHA1EEm0BCBBFDoBCEAlFB9RDjMBwCCmCKxBD7DA2BOpBACBKC",
    "xBDCBHA9BCkBEBH.BAMB0BIKDCA:CCCABBGACA9EADHVB5BBDAlBGDEjGHCCBAXA0CFBAEBBBuHDGBBBbB1CHCABBqDA",
    "BACFBAlDCCDBEjIIBBgIBBAEAwEDCBEAgBJoBFCDIAJFCCuBMBB2MGBFBAyCVCGBBBB6DFDABBBGBAoCBDABA7KBLB0B",
    "EFABA9nFAGO60NE7BG4gBA:BDxCA4lTBhzEtBCWgRCRHCGeD0EC79B2BExBIAOAWEBOwqBGBQCGBBBEkDAgFG3LA9BD8",
    "PDgfGtDG19lYvH"]⟩,
  ⟨["nd", "decimalnumber", "digit"], [
    "wBJmxBJmEJmGJ8MJ2DJ2DJ2DJ2DJ2DJ2DJ2DJ2DJ2DJgDJ2DJmCJ2IJmCJm6BJmBJsJJgEJmFJGJ2FJ2CJmEJGJmuiBJ",
    "mVJmBJmGJWJ2CJ2MJ24UJmsBJmkCJsZJgEJ8BJwEJ2IJ2KJ2DJ2LJmDJmDJmNJmDJ2XJ2HJmCJmNJm4SJ2CJmEJ0jbxB",
    "gqCJmNJ2PJ2iBJ20EJ"]⟩,
  ⟨["nl", "letternumber"], ["u3FCvzCiBCD.zDAZIOCr1dJwyW0BsOAIAmEEqhIuD"]⟩,
  ⟨["no", "othernumber"], [
    "yFBFACC1pCF4LF4DClEG5GGRIxNJ1hBTzjBJgPA10BADFGJmGPpBA2W7BuCV2TdprBA0kBDqEJeHBOgBJnBOwrdFxmWs",
    "BhCDRB1KakBD0pBHZGnBIrCEWFgFBCPCtBgCI0BBeCrCEoDHYHpBGqKFgLe.EJqBDwDGmET7LTlqBBuNInbSzaUm8SG.",
    "YWphZTMTsDYuqFIhd6BBCBDsCsBBOieM"]⟩,
  ⟨["pc", "connectorpunctuation"], [":CA:.HBTA.u3BBYCvHA"]⟩,
  ⟨["pd", "dashpunctuation"], ["tBA8qBAzBAhyDAlgBApgCFhwDACAfBEAcA.NATAvDAwszBBlBAKApFA:8DA"]⟩,
  ⟨["pe", "closepunctuation"], [
    "pBAzBAfA91DABA.6BAptCA3BAPA6TABAeA.hBABABABABABABAwCAgBABABABABA0MABABABABABABABABABABAgCABA",
    "hBAlhBABABABAsBABABABAsNABABABABADABABABACB.ozBA5GAdABABABABABABABADARABABAqFAzBAfACACA"]⟩,
  ⟨["pf", "finalpunctuation"], ["7FA96HADAcAouDABAEACAPADA"]⟩,
  ⟨["pi", "initialpunctuation"], ["rFAs7HACBCAZAouDABAEACAPADA"]⟩,
  ⟨["po", "otherpunctuation"], [
    "hBCBCCABABBKBDBbAkCAFAOBHA.VAIAyOFpBA2BACACAsBBUBBBNABCqCDmDArBNpHC2BOfAlIBKAsEA4DA5DAmMAMAv",
    "LA6CAKBoFOBAwDAqCEEBvDFrFAkTIlYA8DCnCB9ECBClBFBD5JB4GBgEGBFsFGcB9DD7BE.BBgCHLAiaBIHIICDCCDKB",
    "ABJ6kDDBBwDAvEBECCACIBBBACBKEBJCDBABMCCsNC5BA9FAigdBtICjDAKAzDF8LD2CBoBCBAxBBvBAhDMQB8DD.DBQ",
    "B5HAkxUGCAWAUBCDDCBDHCGABB1ECBCCABABBKBDBbAkBACB6MC8UAwBA.MAnXAnGAfAwIImBAwDGiCG5CD4dEsBD9FG",
    "tDBBD.DDwBBvCDEANABC4CFrDAhNEKBBAoDA6HWpDCcMsCAiEC8HAoIC7EA8CHzCCBE9CJ3JEqBBlUBqCMvFAwjBE87C",
    "B7zOBlEAhCEIAyaDnKA8lTAnvHEy2DB"]⟩,
  ⟨["ps", "openpunctuation"], [
    "oBAyBAfA.1DABA.6BA.rCADAmBA3BAPA6TABAeA.hBABABABABABABAwCAgBABABABABA0MABABABABABABABABABABA",
    "gCABAhBAlhBABABABAZASABABABAsNABABABABADABABABACAhpzBA3GAdABABABABABABABADARABABAqFAyBAfADAC",
    "A"]⟩,
  ⟨["sc", "currencysymbol"], [
    "kBA9DDpnBA7DAyPByPBHA1HAnIAlSA7sCAkmCgB37hBAjuVAsDA6EA7GBDB2:HD.4wBAwtCA"]⟩,
  ⟨["sk", "modifiersymbol"], [
    ".CABAnCAGAEADApQDMNFGBABQ1DAOBioBA05FABCLCNCNCNB8kEBjzdWJBnDBweAOBmiUQ7bABAiFA3g9BE"]⟩,
  ⟨["sm", "mathsymbol"], [
    "rBAQC9BABAtBAEAlBAfA.XAvQC7xGANAnBCNCrEAnBEGAkCEFBEACACAHAfBCABAfrIgBB6CAeYoBF1OAJA2BHvDAwKE",
    "CeKPgIiEW.BEfChIwBUCF8.zBA4ZABCkFAQC9BABAjEAGD021BAZAfAZAfAZAfAZAfAZAs5FB"]⟩,
  ⟨["so", "othersymbol"], [
    "mFACAEABAxeAqIB:DBuGAKATB3HAjQA1LAiEFBAkEAvGApBAnMCPABCCFUABABAlEHBFBBFDlGBwXJzWAyWA9EhBhLJJ",
    "IjsBBBDBBKABBGFBABABAEALBOABBBA6BBJECDBBBBBGBeCBBABesIHETCGCwCBdZnBGkCZKxCtCW2FBIB1BIuDB3HsB",
    "rBgC:HgQvBVBGmBCfBoDlHFlLBuBZB4CM1GaLIANBMAVBGBwKBEJgBjBceLdIAPfKmBP:JguG:Bw0V2BhbDKBBA9RCm2",
    "UP:DAtBCkPADAEBNB5JI5BQCCBMDAvBsB6zBBvSA2jDA1kCHEQq6SDFA2qUAz1EzD8B1HKmBC7BFCWBHdE8BVhCDA6F2",
    "CplB:P3BDyBHBNBBo2BA86CAhEAxWrBEjDMOCOBOBkBXgF4BcNrBEIHBOF6E6HF3WEQDMD2DE.CGLEAPLE3BIJGnBIdC",
    "BuCzKMNCMDIHtBBGINEIHIHyEB2B"]⟩,
  ⟨["zl", "lineseparator"], ["ohIA"]⟩,
  ⟨["zp", "paragraphseparator"], ["phIA"]⟩,
  ⟨["zs", "spaceseparator"], ["gBA:DA:uFA:rCKkBAvBAg9DA"]⟩]

end Conformance.Unicode
