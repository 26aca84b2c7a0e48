import Conformance.Unicode.CodePoints

/-!
# Ages

The code points that each version of the standard added, the oldest version first. The age of a
version holds the code points of all versions up to it: see `Conformance.Unicode.Property`.

The data are those of Unicode 15.0, packed as `Conformance.Unicode.NamedSet` says; every set is
given with all its names, in the spelling that `Conformance.Unicode.looseName` produces.
-/

namespace Conformance.Unicode

/-- The code points added by each version, in the order of the versions. -/
def versions : List NamedSet := [
  ⟨["1.1", "v11"], [
    "A1PEd4B4CHuBBJWlCaBSBEADAFGBABTBrBBGDABABABABRNLBhCBLBoBJ0BCBCBDbCHCB3BlBCGBmBBAmBJBIMaFEXAO",
    "ADABZFSNNCnCCEBOBdCJnQCB0BCRCEDYQCBHCBCVBGBADDCABGCBCCJAEBBECUHACFEBCVBGBBBBBBCABEEBCCLDBAHO",
    "MCBGBABCBVBGBBBECJBCBCCAPAFJRCBHCBCVBGBBCDCHDBCCIBEBBCEKRBBFDCBDDBBABBDBDCDHBCEEDCBDJAPLOCBH",
    "BCBWBJBEEGBCBDHBJBEJSBBHBCBWBJBEEGBCBDHBHABBEJSBBHBCBWBPEFCCBDJAIBEJxE5BEclBBBACBBACAGDBGBCB",
    "ABACBBMBCCEBABFCJCBiOlBKmBEAE5CFjCFxCmgD6EF5CGVCFClBCFCHBABABABeC0BBOBNCFBSCCBIBuBBWjBGDaRKl",
    "BRe4BavBN6CVxHOAB4DlEkBbKVqEV1EKvCQTG1CxEDBDCbBiBBABDDABGCGOeDXBNhiC3BHABzCEFC9CGnBE9CBPgDcD",
    "jBcbDxBPLEuBB2DEiDCehwGltU6iQtxGyGGMEGYBEBABBBBBrDhBsLQ:BC1BoBLkBDMUEJBSBDECBABmECAB9CC9CDFC",
    "FCFCCDGBGOC"]⟩,
  ⟨["2.0", "v20"], [
    "xsBQBMUA7pCnCBgBHaEFBABUDGBAh3DAvQA06iBj9K8C::B.:nCB.::BB.::BB.::BB.::BB.::BB.::BB.::BB.::BB",
    ".::BB.::BB.::BB.::BB.::BhggE"]⟩,
  ⟨["2.1", "v21"], ["slIAv63BA"]⟩,
  ⟨["3.0", "v30"], [
    "2PDeHCR1DExBAKE3CITA0DADABABABAeAMAiCAMAqBBCD8CB8EAoGCiDBFAPAqBEBNBdDa1BwBxuBBBRDXBIBACGDAEF",
    "BABHSC1LArBAXCHABCBOCAwBhBBEBBBGDDGZmNGB.BBABDCGBABDCmBBABDCeBABDCGBABDCGBGBWBeBABDCGBmBBSGb",
    "jB0CM1TJcDwCvE8CDJWOBJG3CIpBl8BAYF:CCyBB1CBoCAnDItIA5DABdqEBpOHhBA2CBuM:HgsBZB4CM1GaL8BCDAhL",
    "XoS1tGqyUskBDRCPBLBCBA2yVA7mBC"]⟩,
  ⟨["3.1", "v31"], [
    "0fB6u.BfwoBeBDMa1FlBClBy9yB1HKmBDzFiR0CBmCBBCACBCDBLBABDBBBgCBDCHBGBbBDBEBADGBxKEhJExBggK22p",
    "BppU9QjvhWAe:C"]⟩,
  ⟨["3.2", "v32"], [
    "gRAuJATMoDBcAzEB5BBCBCBxBP.KBhKAlqCBnwBMBGLWJTMMBCBBzmCAGEEAHENA.BByBGyCOoFLyHN8DAezB8IT3EJ4",
    "CHWB6CLCJ.GN6CbEPgI:P7pBC3CBIB.CAwHPxCOxCOivcBQAMADAqrV6BxcADP1BBsBArHB"]⟩,
  ⟨["4.0", "v40"], [
    "hRASC3DB:BQwCHFC3EEkQDJIgCC1EBPAtBCdC0NA4FAjCABAoEA0CCNAjCA7BAhEHhGB:4CASJmIcDLELEADpBCErDfg",
    "YrDnXBmHAzUBuJA0IB0DHOB.iBNv4BBxBArBBuCDnFDjDBfAguG:B9:rBApCB3NLBZBSBBBOCNiB6DFCEsBDIgSdBAmE",
    "BmBvCCJ2aFCABrBBBDACAg2yB2CqLA.hrYvH"]⟩,
  ⟨["4.1", "v41"], [
    "3RK2IE:ED2HBqFAiBCjCASA6BFxHdvQAwCAnPAvBApfBnJBBAqIA:BA:BAnBAfAfAfAPAnBAXBfZmvBpBGZGJEBgBbCB",
    "sa3CxUBBGxBEdD1BAwCAPAkUK8RAlDBSKFPuIGnaFsHuBBuBhBqDOsBK1BJAQWJGBGBGBGBGBGBGBGhBXEBidPuFAnpb",
    "Vk6BWpHrBkyUpD2ZJmZqC1QjBENqxBDBBFHBCBaECEIIIn9xBlC.iBB"]⟩,
  ⟨["5.0", "v50"], [
    "iSNrJCxKAqBFQDmFAlQ6BgMBBBibBNBtwDrCEsBnSGzBBsXD9CB1BA3SLqWA0IDpaGFD8JMHD:0eDFB.I3BokYZFAg3F",
    "ubxEiDNDs3rBR4iBB"]⟩,
  ⟨["5.1", "v51"], [
    "wbDCB3CA3FAsEPiHELEgBEuJRxPB.GAjBAuGAdBsDAsDAaBIBUH9FAGAdBMFDGrPBhDADCtCAFACAHCEFa:BEBqgCA1W",
    "qBDLmC3BDODyBrKb1FD6CFkLArEA.CA1BD0oBAVJDDoIAfDrZEEoBDE4ICBCEFiLfYDCS8XAiFT4ubH8pBrJUfCRIbjE",
    "ECqDuDEgEkCJLmBzCLAgF2BJNCJCDk.UCpbL0BtBiEcDwBvyBZFAp:xBA22HrBEjD"]⟩,
  ⟨["5.2", "v52"], [
    "kpBB6WtBCOhGAtCAGAjBBgEA5uBDhGD8FEkCEyCFgQA2TIwRlC0FBuBAlC.BBcCKGJGNiRiBqIA4VC3EC2BA.SA1VBdC",
    "EJBSBAEX3CA9fE2IANBrDG:JAygBL0rbHkoBvBgN3C4JJmFbkDcDtCBKEBgEbEiCYEgHtBCJ29KWEwBvzICyuDVBI6FB",
    "kKfgE1BDcCaFHgEoC3QehQhC.5HuhBxmvBKFeCALABACADADEIAHAZABBCAKDCAvDAPhBOI3ltB0hE"]⟩,
  ⟨["6.0", "v60"], [
    "mpBB4HA.BAgPbCA7GBTAGBbE6PFxNAQATA9RDpCBicBhjCzBID8PA4UHcAvZK6WATABDdAEBcAjBABAECJB0BCYAOAOB",
    "gtBAOA4hBClldBrJBBBOJwCAmYFCFCFJGBGjkUP.hFtCEdw8V4RnuRB.kQOCNCOBOwCABKBABBBCBCFHBGBJGIBACBBJ",
    "EBBJrCZBBvBIVBuFgBPFBlCDTMkBBEVQP.BBAB1FBDD9BSXzEEBPBCBABABABCBFCDBACDBLEKwBlC6BzDs.vB9G"]⟩,
  ⟨["6.1", "v61"], [
    "vsBA0DA7UABK3BaxPAtfBnPAFAvBCr1CCMFgIHrBD02CABAkpBBzBAFA4BBqGJwscAn1BHjBAyHBWAtCBmXW35TBw6D3",
    "BGBw4BYHJG0BBN8BoCHJmlB3BIJ2hWkCLuBQQgzfDBaBBBACABJBDBABAGAEABABABCBBBACABABABABABBBACDBGBDB",
    "DBABJBQFCBEBQ0BB4TB0eD8FAQADABABABADAGBEABBEA"]⟩,
  ⟨["6.2", "v62"], ["6lIA"]⟩,
  ⟨["6.3", "v63"], ["8wBApyGD"]⟩,
  ⟨["7.0", "v70"], [
    ":bAoNH9CB2DA7UALFsCA4DAHA:TAzBAsCA:DAkHJhoCHkRBxMO5RBtHOlWC2ZGlYAsiBCKZCfChBDLBHqTG1ieF2HLLC",
    "CBlCAoPe9DDwFvBEBh2UG9aBTA:JbjBAwBqBlMnBIzBLAwE2JJVKH4H.BIIwOfgBmBELpERHDMGvmBAwGmB2CAMAGTLR",
    "BqByD6BFJHCBHCBCVBGBBBECICBCCJAFGCGDErInCIJmF1BCR2BkCLJmSyCMAgO4B2jCpBqGLFAruReBJEBgDdCFKlCK",
    "JBGBUFSwjUqDFMDIHJCH86KkGCPo:BAgBVVB0QLJAmCAWLlBAFDFLRGnCABA2FAEB:BBEGdRBoBB1CmCBNvBmCJQMDDs",
    "E0CrBLE3BIJGnBId"]⟩,
  ⟨["8.0", "v80"], [
    "zlCBuBA1QAgLAkIA10BACFgmDArGBgzCD9.cIo2BAwHAiBFkKBiTDMvCuzUBw1CSBBFE8FBCPCtBgUyBNyBHFpmBDOEg",
    "FGBABDBOBK2CAvCA5TTiJZDOEP5iDAmHjG81HmS38iBK3wBrUPEBO9jGCuCBvCEkBH:HArCEzHBrEA:RInDE7BA:yvBh",
    "0F"]⟩,
  ⟨["9.0", "v90"], [
    "2lCHWO9cAuGAECBGXCn4DIyLA:vBDkyCBpreA2IAnmWBhZjBEjBiqDAhO5CBABAiQMzsBIBsBBNKcDfCVBNp5UAfs:FT",
    "yXtoVGBQCGBBBE1mCqCFJEB7hCRuEA.ZApBAsJBhBCiRFBHIACLBLEOmBM"]⟩,
  ⟨["10.0", "v100"], [
    "gjCKxMB8HFgQA6BB69DA.HDlWA:ZAy.BAyTEkXAn1bUi6YCw2FnCIzBCWBE9SGBBBrBDABBBIIJn0UAghQ8IxCrMk7PF",
    "tjBBiBBnQLTAIHBBZASMmBF4BWpm1BwpH"]⟩,
  ⟨["11.0", "v110"], [
    "grBAnBAmDAtQCzGAqJA3DAtMA:DAz:CA3gBqBCC63DCWYEOrSEgXA71bE:9BAIBkKB0pYBSA3VnBIJmOnBIpBzLA2DC0",
    "PAiJA7VAlH7BhTAiWFBBBkBBBBFHJ2JYn6T6CyqGEu3ST.DG4nGjC6jBApuBA7GD0LCcECDDABDYKNJHBkBYgDN"]⟩,
  ⟨["12.0", "v120"], [
    "3jDAuQACACABFEAHAHBCANA:xDAu2DA1BAvSAqreFCE:cB4jZWojBA4SAnXHCtBCK:EB6pBxBNAwhFIs4OFEAvBI6CBu",
    "gGF4qKCRD48LsBDNCJEBwL5BFAryBA1d8BuhBAorBAkBAlHLhJCvBAxBAJApBFDBKFDHCCwBzCcDECFCNF"]⟩,
  ⟨["12.1", "v121"], [":3MA"]⟩,
  ⟨["13.0", "v130"], [
    ".lCJtUAuNA8DA9pDB2mEA4VCobE2:GJwxUMq.BDqBB1BA7ZDwxVAjnDpBBCCB.Hb7LAmEBqUAFB.kBGCACHBBBdBBCLJ",
    "J2yBAzhUALBh4GiPqBIkgZC9CC9BAopBBjBBzNB6CAlDAEBqBBGCdAoFAODPSHGJCNGpByEB2BlBJ92qBGipWq6E"]⟩,
  ⟨["14.0", "v140"], [
    "9wBAySeBBGHVASKpbAgBA:DAvxCAHAJAvHAxVN9DAwBB7TAlWAu7CAvBAzPK:scCg.BBOBBABEYCt.UA9LP:DAuBBw7B",
    "KBOBGBBBKBOBGBBjOFBpBBI19BZmHFsCA2vBAmEGpbPwmFiD9zOuCBJmpRDBGBBgJD9uHtBCWJzDlRB1oDexbexpBGBD",
    "BBBO.2DCwIAoMAyCAuFBsBDKDICRCGHIGn:qBB1iED"]⟩,
  ⟨["15.0", "v150"], [
    "znDA6OAuhgCC:ZC.lCJ2fQBoBDb1mFAJc8mfAiBAqrITxiDFlI9BhBAgiBpBivEA3ECEE5CA7UCPBkBCLCBAOBKBMAOB",
    "givBA2gX:iE"]⟩]

end Conformance.Unicode
