import Conformance.Unicode.CodePoints

/-!
# Properties that a code point has or lacks

The code points with each property that is either there or not: alphabetic, upper case, white
space and the like.

The data are those of Unicode 15.0, packed as `Conformance.Unicode.NamedSet` says; every set is
given with all its names, in the spelling that `Conformance.Unicode.looseName` produces.
-/

namespace Conformance.Unicode

/-- The code points that have each property. -/
def binaryProperties : List NamedSet := [
  ⟨["ahex", "asciihexdigit"], ["wBJHFaF"]⟩,
  ⟨["alpha", "alphabetic"], [
    "hCZGZvBAKAEAFWBeBpOELOEHABA2CAqBEBBCDBAGABCBABTByCBqEIlFBlBCAGoBnBNBABBBBBAIaEDdKF3BBGOlDBHE",
    "HECKCCAQvBNkDYgBJBEAFXCSTYHKFXBFRpBKLDGGrCBPBCEONSBHCBCVBGBADDDHCBCBBAIAEBBEMBKAECBFEBCVBGBB",
    "BBBBEEEBCBEAHDBARFLCBIBCBVBGBBBEDIBCBBDAPDVDECBHCBCVBGBBBEDHCBCBJBEBBENAQBBFDCBDDBBABBDBDCDL",
    "EEDCBCDAGAoBMBCBWBPDHBCBCIBBCCACDcDBHBCBWBJBEDHBCBCIBGBBDNCMMBCBoBCHBCBCBAFDHEWFBCBRDXBIBACG",
    "IFBABHSBN5BFGGAzBBBABEBXBABSBCCEBAGAODgBA:BHBjBESEPBjBjC2BBACEQ:BKDClBBAFACqBBsKBDCGBABDCoBB",
    "DCgBBDCGBABDCOB4BBDCiClBPQ1CCFDrTCQBZFqCDKHTLUMTMMBCBBMzBCSOAEAjC4CHqBFlCKeBLEIXdCELrBEZ2BbE",
    ".BCTyBAXBLCxBzBBOBHzBpBCDKrBBKO2BWCKjBCIHqBCCpBDBFBBDAF:FnBNL1ICFClBCFCHBABABABeC0BBGBADCBGD",
    "DCFEMFCBG0DANAQMlDAEACJBADEGABABABDBKCDFEEARoBtZzB24BkHGDDBMlBBAFAC3BHAQWJGBGBGBGBGBGBGBGBfv",
    "BA1OCZIHECEE1CGCB5CBDFqBB9CRfwBPgQ:tGgCs0VjCtBCsIDPKBUuBFHDwDnBICmDC:BFBBABEYTBgBYzBMjCBAsBF",
    "DABCKgBFiBNcDyBBLPAQPKEB2BJNSWDkCBABAYCCPCDLFCFCFJGBGBqBBNG6DVj9KMWEwBkoItLCpDmBGMEFLBMBEBAB",
    "BBBBrDhBqLS:BC1BoBL0DEBmEkBZGZL4CDFCFCFCCjBLBZBSBBBOCNiB6DlC0BrIcDwBvBfNdFqBFdCjBEHBEqB9ESjB",
    "EjBEnBIzBMKBOBGBBBKBOBGBBjC2JJVKHYFBpBBIlCFCABrBBBDACWKWJehCSBBKVKZmC3BGBgCDBBFHBCBcqBcDcjBH",
    "Bbb1BKVKSNRuDoC3ByBNyBNnB4KpBBBDBuCcKAIVqBRuBUbWJlCrBEK4BJANYXyBRDIiBDAJ:BBDJBKABAjBRBhBCAGD",
    ".BGBABDBOBJH4BXDBHCBCVBGBBBEDHCBCBDAGAFG8EhCBCBDUCehCCBBA4F1BCGZFiB.BBADA7B1BCAnCaCNVG5F4BnD",
    ":BfHCACHBBBdBBCBCD9CHCtBCFBABBbyBCJRnCFASoCnIIBsBBGBAxBdCVBNpCGBBBrBDABBBCBACBYFBBBkBBBBDBAn",
    "KWJQBoBDCvDAvC5cmDuDRjGsyCgDPvhBRF59DmS5tI4RHeRuCRdSvBQDfUFSwV:BgEqCE4BHQgCBBAMBO3:FI1mBqBIn",
    "3IDBGBBBiJPAdCCAODIrMkoCqDFMDIHJEAh7F0CBmCBBCACBCDBLBABGBgCBDCHBGBbBDBEBADGBzKCYBYBeBYBeBYBe",
    "BYBeBYBH05BeGF1GGBQCGBBBEF9BhBAwDsBKGQAhKdSrBkPb0XGBDBBBOBkG7BjCDADA0lBDBaBBBACABJBDBABAGAEA",
    "BABABCBBBACABABABABABBBACDBGBDBDBABJBQFCBEBQ0TZGZGZ2zD:2pBgB5hEG9GCh0FOwpH:gD9QivBq6EF:iE"]⟩,
  ⟨["bidic", "bidicontrol"], ["8wBAxvGBaE3BD"]⟩,
  ⟨["bidim", "bidimirrored"], [
    "oBBSABAcABAdABAtBAPA.zDD96BB8sCBKB2BBOBxFAgGDDFDADBDDBDBABAEIFABRFDJBBABHCeCDFAJBCSFBJECBEXC",
    "PIDUBHB9hBNqCACDBBBCFDFCDNzMVCFBNIAHFDAEEBBCEEABCCBKFCBMSBDCABACABDFBGCYBLBEDBBCBEqBCHBnBFAB",
    "ADEFCEADEBAgIAjQDDBBBOBCJrBHrNJCH9xzBFFBiFBSABAcABAdABABBBB371BA5BA5BA5BA5BA"]⟩,
  ⟨["ci", "caseignorable"], [
    "nBAGALAjBABAnCAEABAEACB3P:FEBEAJBBA7HGvGAFAxBsBBABBBBBAsBALFKKBAjBAKUQAlDHBJBDhBABAea7CK6BKE",
    "ACAYXrBCsBAHBGHpB5B3BABAEHEADGKBNAPA6BAEDIAUBaACB5BAEBEBCCDAeBDALB5BAEEBBEAUBWFBA6BACABDIAHB",
    "LBeA9BAMAyBADA3BABCFCBDHBLBdA6BACAGAFBUBcB5BBEDIAUBdAoCAHCBA6CACGLIiDACIJABGpCBbABABA3BNBEBB",
    "FKBjBJAmDDBFBBCBZBECQDNACBGAPA.CAgTCydCdBeBeBgCBBGIACKDAFAtBEzBAhCBiBA2DCEBJAGC7GBCA6BABGBAB",
    "ACHGJCAnBAIexBDwBABEBAFAoBIMBgBDCBBC4BABBDABC6BHCBgCFyCCBMBGEAGADByB.BNAiBkD9NABCLCNCNCNBMEI",
    "BKACACExBEBJBANAQMzBgBr8CBxDC9DAPAgDfvBA1OAkBDDEFA9CF9CC24bAinBFuIAiDDBJBAcDwCBOhBuCAXCnDCDB",
    "IADAEAZBFA3EBaRNAmBHZKuBCwBACDCBRAVBiCFCBCBMAIAjBALAzBABCCBFBBAbAOBFBBAkDEJC5DACAEAw5TAzEQ9R",
    "PDAMPiBACApFAHAGALAjBABAvBAtBBjCAVChQAiHA1EElgBFBpBBImSCBBFDoBCEAlFB9RDjMBwCCmCKxBD7DA2BOpBA",
    "CBKCxBDCBCAEAKAyBCkBEBH.BAMB0BIKDCA:CCCABBGACA9EADHVB5BBDAlBGDEjGHCCBAXA0CFBAEBBBuHDGBBBbB1C",
    "HCABBqDABACFBAlDCCDBEjIIBBgIBBAEAwEDCBEAgBJoBFCDIAJFCCuBMBB2MGBFBAyCVCGBBBB6DFDABBBGBAoCBDAB",
    "A7KBLB0BEFABAtnFQGO60NE7BGJDrgBA:BQgCBBBrgQDBGBB.kDBBD8yEtBCWgRCJPCGeD0EC79B2BExBIAOAWEBOwqB",
    "GBQCGBBBEF9BhBAgFNwLA9BD7PEgfGtDHv1CEhgjYAe:CgEvH"]⟩,
  ⟨["cased"], [
    "hCZGZvBAKAEAFWBeBiGBDEvGBjBHBeEgDAqBDCBCDBAGABCBABTByCBqEIlFBlBJoB34ClBBAFACqBBDgV1CCFikCIHq",
    "BCCgC:FgC1ICFClBCFCHBABABABeC0BBGBADCBGDDCFEMFCBG0DANAQMlDAEACJBADEGABABABDBFEACDFEEARfDBxZz",
    "B24BkHGDDBMlBBAFAyoetBSdkElDDDB6BFBBABEYEBC1ZqBBNGvCg6TGMEpgBZGZllBvCgDjBEjB0DKBOBGBBBKBOBGB",
    "BjOACCBpBBIlmByBNyBt9C:BgrV:BgsZ0CBmCBBCACBCDBLBABGBgCBDCHBGBbBDBEBADGBzKCYBYBeBYBeBYBeBYBeB",
    "YBH05BJBTGFlI9BykCjCs:BZGZGZ"]⟩,
  ⟨["cwcf", "changeswhencasefolded"], [
    "hCZ6CAKWBHgBABABABABABABABABABABABABABABABABABABABABABABABABABABABACABABABABABABABABBBABABAB",
    "ABABABABABABABABABABABABABABABABABABABBBABABABBBABBBCCDBBBCDBBBBABABBBACABBBCBABBDAHBBBBBBAB",
    "ABABABABABABACABABABABABABABABACBBABCBABABABABABABABABABABABABABABABABABABABABABABABABABABAB",
    "ABAHBBBCABDBABABABA2HAqBABADAIAGABCBABBBQBIWAMCDBBABABABABABABABABABABABABBCBBABBCyBwBABABAB",
    "ABABABABABABABABABABABABABAJABABABABABABABABABABABABABABABABABABABABABABABABABABABBBABABABAB",
    "ABACABABABABABABABABABABABABABABABABABABABABABABABABABABABABABABABABABABABABABABABABABABABAB",
    "ABABABAClBwBA44ClBBAFAqZFikCIHqBCCgKABABABABABABABABABABABABABABABABABABABABABABABABABABABAB",
    "ABABABABABABABABABABABABABABABABABABABABABABABABABABABABABABABABABABABABABABABABABABABABABAB",
    "AFBCABABABABABABABABABABABABABABABABABABABABABABABABABABABABABABABABABABABABABABABABABABABAB",
    "ABABABABAJHIFKHIHIFLABABABAIHQvBCCCFFCCFLDMEFCCFpJADBGAtBPTAyZZw5BvBwBABCCABABABDBACAICBABAB",
    "ABABABABABABABABABABABABABABABABABABABABABABABABABABABABABABABABABABABABABABABABABABABABABAB",
    "AIABAEAtqeABABABABABABABABABABABABABABABABABABABABABABATABABABABABABABABABABABABABAnEABABABA",
    "BABABADABABABABABABABABABABABABABABABABABABABABABABABABABABABABABABAKABABBBABABABAEABACABADA",
    "BABABABABABABABABABEBEBABABABABABABABDBAGAFABAcA6bvCg6TGMEpgBZlmBnBoEjB8EKBOBGBBq3ByBt:CfgsV",
    "fg1ehB"]⟩,
  ⟨["cwcm", "changeswhencasemapped"], [
    "hCZGZ6BAKWBeB:BBzCBMBNCNCBBAE8CBRGaBBBABBDBBABBBECABBCAHACABBDFFAKBmFAqBDCBDCBAGABCBABTBuBDg",
    "BBEBkEIlFBlBKmB44ClBBAFACqBCCgV1CCFikCIHqBCC5FADAQAxD7ECAB1DCFClBCFCHBABABABeC0BBGBADCBGDDCF",
    "EMFCBGpJADBGAbARfDBxZzB24BwDBBBBHlDHDDBMlBBAFAyoetBSbmENC9BJODCCEBYBaFBEDbB8aAcvCg6TGMEpgBZG",
    "ZllBvCgDjBEjB0DKBOBGBBBKBOBGBBj2ByBNyBt9C:BgrV:Bg0ejC"]⟩,
  ⟨["cwl", "changeswhenlowercased"], [
    "hCZlDWBGhBABABABABABABABABABABABABABABABABABABABABABABABABABABABACABABABABABABABACABABABABAB",
    "ABABABABABABABABABABABABABABABABABABBBABADBBABBBCCDBBBCDBBBBABABBBACABBBCBABBDAHBBBBBBABABAB",
    "ABABABABACABABABABABABABABACBBABCBABABABABABABABABABABABABABABABABABABABABABABABABABABABABAH",
    "BBBCABDBABABABAhJABADAIAGABCBABBBQBIjBAIABABABABABABABABABABABAFACABBCyBwBABABABABABABABABAB",
    "ABABABABABABABAJABABABABABABABABABABABABABABABABABABABABABABABABABABABBBABABABABABACABABABAB",
    "ABABABABABABABABABABABABABABABABABABABABABABABABABABABABABABABABABABABABABABABABABABABAClBp6",
    "ClBBAFAyW1C6kCqBCCgKABABABABABABABABABABABABABABABABABABABABABABABABABABABABABABABABABABABAB",
    "ABABABABABABABABABABABABABABABABABABABABABABABABABABABABABABABABABABABABABABAJABABABABABABAB",
    "ABABABABABABABABABABABABABABABABABABABABABABABABABABABABABABABABABABABABABABABABABAJHIFKHIHI",
    "FLABABABAIHYHIHIHIELELDMELEpJADBGAtBPTAyZZw5BvBwBABCCABABABDBACAICBABABABABABABABABABABABABA",
    "BABABABABABABABABABABABABABABABABABABABABABABABABABABABABABABABABABABABAIABAEAtqeABABABABABA",
    "BABABABABABABABABABABABABABABABABATABABABABABABABABABABABABABAnEABABABABABABADABABABABABABAB",
    "ABABABABABABABABABABABABABABABABABABABABABABABAKABABBBABABABAEABACABADABABABABABABABABABABEB",
    "EBABABABABABABABDBAGAFABAcAr5VZlmBnBoEjB8EKBOBGBBq3ByBt:CfgsVfg1ehB"]⟩,
  ⟨["cwt", "changeswhentitlecased"], [
    "hDZ6BApBXBHBABABABABABABABABABABABABABABABABABABABABABABABABABABABACABABABABABABABBBABABABAB",
    "ABABABABABABABABABABABABABABABABABABACABABCCABACADAFACADBDACABABACAEACADABACADABAEABBBBBABAB",
    "ABABABABABABBBABABABABABABABABCBABADABABABABABABABABABABABABABABABABABABABADABABABABABABABAB",
    "AIACBBAEABABABABFBBBABBDBBABBBECABBCAHACABBDFFAKBmFArBABADADCSAbiBBBDCBABABABABABABABABABABA",
    "BEBACACA0BvBBABABABABABABABABABABABABABABABABAJABABABABABABABABABABABABABABABABABABABABABABA",
    "BABABABACABABABABABABBBABABABABABABABABABABABABABABABABABABABABABABABABABABABABABABABABABABA",
    "BABABABABABABABABABABABABAxBmBwzDFikCIwHADAQAyDABABABABABABABABABABABABABABABABABABABABABABA",
    "BABABABABABABABABABABABABABABABABABABABABABABABABABABABABABABABABABABABABABABABABABABABABABA",
    "BABABABABABGFABABABABABABABABABABABABABABABABABABABABABABABABABABABABABABABABABABABABABABABA",
    "BABABABABABABABIIFKHIHIFKHIHINCHIHIHIEBBGADCBBIDCBIHKCBB2KAhBPEAraZm6BvBBADBBABABAGACAKABABA",
    "BABABABABABABABABABABABABABABABABABABABABABABABABABABABABABABABABABABABABABABABABABABABABABA",
    "BAIABAEAMlBBAFAzoeABABABABABABABABABABABABABABABABABABABABABABATABABABABABABABABABABABABABAn",
    "EABABABABABABADABABABABABABABABABABABABABABABABABABABABABABABABABABABABABABAKABACABABABABAEA",
    "EABBCABABABABABABABABABALABABABABABABABAEABAGAFABAcA8aAcvCg6TGMEphBZtmBnBoEjB7EKBOBGBBj4ByBt",
    ".CfgsVfi1ehB"]⟩,
  ⟨["cwu", "changeswhenuppercased"], [
    "hDZ6BApBXBHBABABABABABABABABABABABABABABABABABABABABABABABABABABABACABABABABABABABBBABABABAB",
    "ABABABABABABABABABABABABABABABABABABACABABCCABACADAFACADBDACABABACAEACADABACADABAFBBBBBBABAB",
    "ABABABABABBBABABABABABABABABBBBBADABABABABABABABABABABABABABABABABABABABADABABABABABABABABAI",
    "ACBBAEABABABABFBBBABBDBBABBBECABBCAHACABBDFFAKBmFArBABADADCSAbiBBBDCBABABABABABABABABABABABE",
    "BACACA0BvBBABABABABABABABABABABABABABABABABAJABABABABABABABABABABABABABABABABABABABABABABABA",
    "BABABACABABABABABABBBABABABABABABABABABABABABABABABABABABABABABABABABABABABABABABABABABABABA",
    "BABABABABABABABABABABABAxBmBo6CqBCC4XFikCIwHADAQAyDABABABABABABABABABABABABABABABABABABABABA",
    "BABABABABABABABABABABABABABABABABABABABABABABABABABABABABABABABABABABABABABABABABABABABABABA",
    "BABABABABABABABGFABABABABABABABABABABABABABABABABABABABABABABABABABABABABABABABABABABABABABA",
    "BABABABABABABABABABIIFKHIHIFKHIHINC0BBBEABADCBBEADDCBIHKCBBEAxKAhBPEAraZm6BvBBADBBABABAGACAK",
    "ABABABABABABABABABABABABABABABABABABABABABABABABABABABABABABABABABABABABABABABABABABABABABAB",
    "ABABABAIABAEAMlBBAFAzoeABABABABABABABABABABABABABABABABABABABABABABATABABABABABABABABABABABA",
    "BABAnEABABABABABABADABABABABABABABABABABABABABABABABABABABABABABABABABABABABABABAKABACABABAB",
    "ABAEAEABBCABABABABABABABABABALABABABABABABABAEABAGAFABAcA8aAcvCg6TGMEphBZtmBnBoEjB7EKBOBGBBj",
    "4ByBt.CfgsVfi1ehB"]⟩,
  ⟨["dash"], ["tBA8qBAzBAhyDAlgBApgCF9BAnBAPAmMAkgDACAfBEAcA.NATAvDAwszBBlBAKApFA:8DA"]⟩,
  ⟨["di", "defaultignorablecodepoint"], [
    "tFAhVAsWAi6CBzyBB1CE7:BEaExBP0nEA7kzBPvHAgFAvCInlvBDvmFHl0rY::D"]⟩,
  ⟨["dep", "deprecated"], ["pKAppBAjoCABAphCBlmCF5VB2m3bA"]⟩,
  ⟨["dia", "diacritic"], [
    ".CABAnCAGAEACB3P.EBHFFRBEAJB9HExGA3BQBaBABBBAmEHEBmEBEBDCjCa7CK6BKiBB.DHpBJQb9BAQADDcAqCAQAu",
    "DAQAuDAQAvBC8BAQAHA3DAuDAQAuDAQAtDBQA8DA8DFBArDANErCBbABABAEBiCCBB.BAwDABBoBBEEZGBAKBhWC0dBz",
    "FKJA7KC5JHCAwBOCKoDAPAmBI2BBqEBgCFyCYEAGACCyB.B5CLlBK9NABCLCNCNCNBwnDC9JA6PFpDD:CAyrdAMBBAcB",
    "yCBOhBmDCtDBqGAbR5BDkBA:CAMAkBA1EChCDzBAkDEJCgEBw5TAhYPuIABAvBAtBBjCA8XA:kBFBpBBIqZB7RF1OCmC",
    "KxBDgGApBAoCB4DB.BAsCAJCoDByFBxCAQAYGDEtGADA7DB7HB.DA2DBzDAtIBiIBEA8EAzCASAxCAlNAiIABBxCAv1F",
    "O60NE7BG4iBQwCB.:PDBGBBh4HtBCWgRCDFIHCGeDi0D9BiGG3LA9BDgvBGtDCBC"]⟩,
  ⟨["emoji"], [
    "jBAGAFJvDAEAt8HAMA4GAWA6CFPBvLBMAmFAZKECnGAnHBKAJA6BDBEJACACBCAEACABBCADADBICFABAFLLBCABBBAS",
    "ACBSFBABBDBFACBEBLBFBCAFBBABBUBFFBDCAEACACFBACABABAGADAGAKBPACAEABAECBALBwBCJAOAOA0LBvOCTBzB",
    "AEA6mBAMA5SABAqrvDAqGAgFBMBOACJrCZBBXAUACIVBuFhBCvDCBBCCyCCCBmIB.BLFBXHBCHMACDCAEBNBCAIBJAFC",
    "MCICCABAEAGADAG1CwBlCFHCCEJDABBDACJjHLEA7IuBBJB4FwDMDIHtBBGINEIHI"]⟩,
  ⟨["ecomp", "emojicomponent"], ["jBAGAFJz.HA1GArp3BA2.8BZ7PEwtBDszhY:C"]⟩,
  ⟨["emod", "emojimodifier"], ["7:8DE"]⟩,
  ⟨["ebase", "emojimodifierbase"], [
    "9wJA7GAQD3jzDA8BCCACC1DBCKVSDAECBCHABAYApGBEAVAEBuFCDEzCAQCJALA:RACAIHGAJJCC4BA9BBBBBARCBMlH",
    "CqBI"]⟩,
  ⟨["epres", "emojipresentation"], [
    "64IBtGDDACApQBVByBLrBATANAIBRBFBIAFAVAHBBAEACAHAEBcAjBABAECBA9BCYAOA7aBzBAEAulxDAqGA.FACJrCZ",
    "BAYAUACEBCVBuFgBMIBlCBVMqBEEMQDADmCBAB6FC.BNDBXSAaBNA2C0CwBlCGADCCCEDLBHIjHLEA7IuBBJB4FwDMDI",
    "HtBBGINEIHI"]⟩,
  ⟨["extpict", "extendedpictographic"], [
    "pFAEAt8HAMA4GAWA6CFPBvLBMA:CAmCAZKECnGAnHBKAJA6BDBFBLBxDK1DCKBABAGADAGAKBPACAEABAECBALEtBCJA",
    "OAOA0LBvOCTBzBAEA6mBAMA5SABAmrvD:HNCfA8BFMBOACJS4BbOKAUACIBDJxNF9JIpIwB:D0DL1CqBMD4BHKFoBHex",
    "CMuBBJB4NgI9f"]⟩,
  ⟨["ext", "extender"], [
    "3FA4QBubA5NA6aAwXA:DAjqCA4BAjTAuMAkCAp8EArBEnDB9CC24bA2vBAieAWApEAsDAVB7jVAwgCB6.CAoTCvmBApl",
    "UB8kBBBA4qcBmgCC"]⟩,
  ⟨["grbase", "graphemebase"], [
    "gB.ChBMBxSwDHCFEGBABTB:GHlFBlBCxBCCuBABACACAJaEFRJLABtBVPBkDIAGBCAEfCABdd4CLAOqBJGDXEAJADAHO",
    "BYFABKFeRpB5B2BBABDIDBCHJCcBBBHCBCVBGBADDDABBGBCBBANBBCEXFABFEBCVBGBBBBBBECYDBAHJCCBAMABIBCB",
    "VBGBBBEDDIABBDAPBELHAIBBHCBCVBGBBBEDACAGBCBPBBCERLABFDCBDDBBABBDBDCDLFABBDCBCDAVUGCBHBCBWBPD",
    "ADDTCCACBEJHJBKBCBWBJBEDBBBBBCBBBRBBBEJBCOKBCBoBCABBFCBCBBECBJEZCBBRDXBIBACGJBGGHJCCMvBBBLHI",
    "MlBBBABEBXBABJBBJACEBAJJCDgBXCaBABABNBjBSAFACExBHBFBMlBsBEAGACBCYCDDPEMBBCFBOBnBBAFAC4LBDCGB",
    "ABDCoBBDCgBBDCGBABDCOB4BBDCiCFcDZG1CCFC8UD4CHRDAJSCCJROMBCPzBCAHHBBLIDJGJGKFJG4CHEChBBAFlCKe",
    "EDCCEBBFHADpBCELrBEZGKD4BCBD3BBAJABBIFNJGJGN2CvBHABEBJDaJKDfEBCAD3BBACCBADBIvBIBFOD7BHqBCKLA",
    "NAHDBFBCCAF:FgC1ICFClBCFCHBABABABeC0BBOBNCFBSCCBIBKFXHwBQBCaBMDgB:BrEE2UZKVz4BCfB3KDBFsBBAFA",
    "C3BHBPWJGBGBGBGBGBGBGBGhB9CiBZB4CM1GaLEpBGPB1CEkDFqBB9CBzCMuBBszcD2BJ7KUuBEAKfCvCCFIqGFBBABE",
    "YPBCBDBYCEEJG3BIjCKLYMBlBIYLBLdGvBBBEBCPBKEGBYBoBGBCBLCBHBACJCfByBBADBCECABAYQCHLFCFCFJGBGB7",
    "BE0DBBBDDJGj9KMWEwBkoItLCpDmBGMEFABXBEBABBBBB8DQ8NC1BHAgBPQJWiBBSBDEEBmEE8ECeDFCFCFCCDGBGNBC",
    "LBZBSBBBOCNiB6DFCEsBD3CBMDAvBsBjEcDwBQaEjBJdFlBKdBkBENqB9ECJGjBEjBEnBIzBLLBOBGBBBKBOBGBBjC2J",
    "JVKHYFBpBBIlCFCABrBBBDACWBnCIIwBSBBFgBDaFAgC3BETCuBPDBCBcKIHIH:BgBkBGLJ1BDcCaFZHDMGwCoC3ByBN",
    "yBHpBMJmJeBpBDACBuCnBIVLIWREDmBbUWJAB1BPGEdBBCAMwBEBCBBDOYHJJjBFAJRIiBBCLzBJJEBBPBTLRBbDBBAC",
    "FBB:BGBABDBOBKGuBBCNJIBBHCBCVBGBBBEDABABDCBCCCAMG8E3BIBDABUBABCevBBBGABBBACACDIJmFuBBBGDCACa",
    "kByBIBBACDLJGMTqBBABBGABBGJ2BaFBEAJW5FuBJACAkDyCMHCACHBBBXBEBBEABDBCJJmCHCpBIDBDbAKnBGBEHJAG",
    "BDtBNACINoCHJ2HIBlBOABFKcDfZAHACArCGBBBlBVAJJGFBBBkBEBBABAHJ2JSCDJOBjBIBBABW2CAPxBN6cmDuDBEL",
    "jGsyCiDNvhBRF59DmS5tI4RHeBJEwCBJGdHAKvBHOKJBGBUFSwV6ClDqCF3BLMgCDMBO3:FI1mBqBIn3IDBGBBBiJPAd",
    "CCAODIrMkoCqDFMDIHJCACAw1EzD8B1HKmBC7BBADDVBHdE8BVhCDA6DTMTM2CJYnE0CBmCBBCACBCDBLBABGBgCBDCH",
    "BGBbBDBEBADGBzKCjJCxR3BDyBHBNBG0jBeGFlI9ByEsBKGCJEBgKdSrBEJFAwObEJmXGBDBBBOBkGCIwBjCHAEJEBxY",
    "jCsC8BiGDBaBBBACABJBDBABAGAEABABABCBBBACABABABABABBBACDBGBDBDBABJBQFCBEBQ0BBuIrBEjDMOCOBOBkB",
    "KtF4BcNrBEIHBOF6E3eEQDMD2DE.CGLEAPLE3BIJGnBIdCBuCzKMNCMDIHtBBGINEIHIHyEB2BlBJmgB:2pBgB5hEG9G",
    "Ch0FOwpH:gD9QivBq6EF:iE"]⟩,
  ⟨["grext", "graphemeextend"], [
    "gYvDzIGnIsBBABBBBBAoCKwBUQAlDGCFCBBDjBAea7CK6BIJAYDBIBCBErBC8BHqBXBf3BABAEHEADGKBdA6BABACDIA",
    "JAKBaACB5BAEBEBCCDAeBDALB5BAEEBBEAUBWFBA6BABBBDIAHCKBeA7BABAMAJAoBADA3BABCFCBDHBLBdA6BACACAD",
    "AFBHBLBcB5BBBACDIAJAKBdAoCAEACCBAIAxCACGMHiDACILGpCBbABABA3BNBEBBFKBjBJAmDDBFBBCBZBECQDNACBG",
    "APA:VCydCdBeBeBgCBBGIACKJAtBCBA1DBiBA2DCEBJAGC7GBCA6BABGBABACHGJCAwBexBDwBGBAFAoBIMBgBDCBBC4",
    "BABBDABC6BHCB4ECBMBGEAGADBmG:BsQAjGgB.:CCtEAgDfqRFpDB0udDBJgBBwCBwIADAEAZBFA3EBaRNAmBHZKuBCw",
    "BACDCBnBAjCFCBCBMAIAvBAzBABCCBFBBAqBBIAuHACAEAw5TAhXPQPuLB9SAiHA1EEm0BCBBFDoBCEAlFB9RDjMBwCC",
    "mCKxBD7DA2BOpBACBKCxBDCBHA9BCkBEBH.BAMB0BIKDCA:CCCABBGACA9EADHVB5BBBABAWAOGDEjGHCCBAXAxCACFB",
    "ACABBBBrHACDGBBBbB1CHCABBqDABACFBAlDCCDBEjIIBB1HAKBBAEAwEDCBEAgBJoBFCDIAJFCCuBMBB2MGBFBAyCVC",
    "GBBBB6DFDABBBGBAoCBDABA7KBLB0BEFABA9nFAGO60NE7BG4gBA:BDxCA4lTBhzEtBCW.QABCEEIHCGeD0EC79B2BEx",
    "BIAOAWEBOwqBGBQCGBBBEkDAgFG3LA9BD8PDgfGtDG12lY:CgEvH"]⟩,
  ⟨["grlink", "graphemelink"], [
    "tqCA:DA:DA:DA:DA:DA:DA:DAtDBQA8DAvDA:DApGA0FB52BBeA9EAtUAjHAlDBmCBrsEAm0eAlBA3EAuEAsDA1JA2HA",
    "xyXAmwBApBAOA5BA5DBrEA0DA0FAiDA0HA:DA8HA:DA2DA0DAtIAjIBhFAzCASAxCAlNAkIBxCApNB"]⟩,
  ⟨["hex", "hexdigit"], ["wBJHFaFp1:BJHFaF"]⟩,
  ⟨["hyphen"], ["tBA:DA8mBA7zEApgCBlwDAjXAnrzBApFA3CA"]⟩,
  ⟨["idsb", "idsbinaryoperator"], ["w:LBCH"]⟩,
  ⟨["idst", "idstrinaryoperator"], ["y:LB"]⟩,
  ⟨["idc", "idcontinue"], [
    "wBJHZEABZvBAKABACAFWBeBpOELOEHABAR0DBBCDBAGEBABTByCBqEBEClFBlBCAGoBIsBBABBBBBAIaEDdKFpCElDBH",
    "CJBSCAQ6BCkDO1BEACACtBSbEKFXBFJpCBgECJBSBHCBCVBGBADDCICBCDIAEBBECLKABACCBFEBCVBGBBBBBBCABEEB",
    "CCDAHDBAHPLCBIBCBVBGBBBECJBCBCCAPDCJJGBCBHCBCVBGBBBECICBCCHCEBBECJBAQBBFDCBDDBBABBDBDCDLEEDC",
    "BDCAGAOJQMBCBWBPCIBCBDHBBCCACDCJQDBHBCBWBJBECIBCBDHBGBBDCJBCMMBCByBBCBEFDHECJKFBCBRDXBIBACGD",
    "AEFBABHGJCBN5BFOBJnBBBABEBXBABWCEBABGBJCDgBAXBGJLABABAEJBjBETBRBjBJA5BpCGtCClBBAFACqBBsKBDCG",
    "BABDCoBBDCgBBDCGBABDCOB4BBDCiCCCJIOPQ1CCFDrTCQBZFqCDKHVJVLTMMBCBBMzCDAEBCJhBCBKG4CHqBFlCKeBL",
    "ELKnBCELrBEZGKlBbE.BBcCKGJNAINBPxBsCDJRIMzDM3BIJDwBCIHqBCCQCBmBF1QCFClBCFCHBABABABeC0BBGBADC",
    "BGDDCFEMFCBGiCBTAcANAQMzBMEADLRAEACJBACFGABABABPCDFEEARoB3zCkHGIMlBBAFAC3BHAPXJGBGBGBGBGBGBG",
    "BGBflQCZOBECEE1CCGB5CBDFqBB9CRfwBPgQ:tGgCs0VjCtBCsIDbUvBEJByDlBICmDC:BFBBABEY1BEATzBMlCKJGXD",
    "ABwBCjBMcDgCOKGeB2BJNCJGWDoCYCCPCEKFCFCFJGBGBqBBNG6DBBCJGj9KMWEwBkoItLCpDmBGMEFLBMBEBABBBBBr",
    "DhBqLS:BC1BoBLEPQPDBYCgBEBmETJHZEABZL4CDFCFCFCCjBLBZBSBBBOCNiB6DlC0BoEAiEcDwBPAffNdFqBFdCjBE",
    "HBEqB9ECJGjBEjBEnBIzBMKBOBGBBBKBOBGBBjC2JJVKHYFBpBBIlCFCABrBBBDACWKWJehCSBBKVKZmC3BGBgCDBBFH",
    "BCBcCCEAgBcDcjBHBdZ1BKVKSNRuDoC3ByBNyBNnBIJmKpBBBDBrCfKAIgBfVqBUbWJmCfPJ7BHANYHJG0BBJEDIjBCA",
    "JkCEDBMBAjBRBkBGD.BGBABDBOBJH6BFJGDBHCBCVBGBBBEBJCBCCCAGAFGCGDErEqCFJEDelCBAIJmF1BCIXFiBgCDA",
    "LJmB4BHJ2BaCOEJGG5F6BlDpCVHCACHBBBdBBCIMJmCHCtBCHBBb.BIAIpCDASoCnIIBsBBIPJYdCVBNpCGBBBrBDABB",
    "BIIJGFBBBkBBBBFHJ2JWJQBoBDENJ2CAvC5cmDuDRjGsyCgDPvhBQVq9DmS5tI4RHeBJGuCBJGdCEL2BJDMJJUFSwV:B",
    "gEqCE4BHQgCBBBLBO3:FI1mBqBIn3IDBGBBBiJPAdCCAODIrMkoCqDFMDIHJDBhzEtBCW.QEDFIHCGeD0EC7N0CBmCBB",
    "CACBCDBLBABGBgCBDCHBGBbBDBEBADGBzKCYBYBeBYBeBYBeBYBeBYBHCxBgQ2BExBIAOAWEBOwiBeGF1GGBQCGBBBEF",
    "9BhBAwDsBDNCJEAhKeR5B2OpBmXGBDBBBOBkGLGpBrCEJmlBDBaBBBACABJBDBABAGAEABABABCBBBACABABABABABBB",
    "ACDBGBDBDBABJBQFCBEBQ0pDJmgB:2pBgB5hEG9GCh0FOwpH:gD9QivBq6EF:iEwq3VvH"]⟩,
  ⟨["ids", "idstart"], [
    "hCZGZvBAKAEAFWBeBpOELOEHABAhEEBBCDBAGABCBABTByCBqEIlFBlBCAGoBnCaEDtBqBjBBBiDBAPBHBKCCAQABdd4",
    "CLAYgBJBEAFVEAJADAXYHKFXBFRpB6B1BDASAHJPPEHCBCVBGBADDDAQANBBCOBKAIFEBCVBGBBBBBBfDBATCQIBCBVB",
    "GBBBEDASAPBXALHCBCVBGBBBEDAeBBCPARABFDCBDDBBABBDBDCDLWA0BHBCBWBPDAaCCACBeAEHBCBWBJBEDAfBBBPB",
    "RIBCBoBCAQAFCICYFFRDXBIBACG6BvBBBMG6BBBABEBXBABJBBJACEBAVDgBA:BHBjBbEzDqBUAQFEDDADBHCEMMARlB",
    "BAFACqBBsKBDCGBABDCoBBDCgBBDCGBABDCOB4BBDCiClBPQ1CCFDrTCQBZFqCDKHRNSOROMBCPzBjBAEAjC4CHoBBAF",
    "lCKexBdCELrBEZ2BWJ0ByCA9CuBRH2BdNBKrBajBpBCKjBCIHqBCCpBDBFBBDAF:FgC1ICFClBCFCHBABABABeC0BBGB",
    "ADCBGDDCFEMFCBG0DANAQMlDAEACJBACFGABABABPCDFEEARoB3zCkHGDDBMlBBAFAC3BHAQWJGBGBGBGBGBGBGBGmRC",
    "ZIHECEE1CEEB5CBDFqBB9CRfwBPgQ:tGgCs0VjCtBCsIDPKBUuBQeCvCnBICmDC:BFBBABEYPBCBDBWdzBOxB.BFDABB",
    "LbKWZcHuBcAQEBJKEBoBXCBHUWDADxBBADBCECABAYCCKHCMFCFCFJGBGBqBBNGyDdj9KMWEwBkoItLCpDmBGMEFABJB",
    "MBEBABBBBBrDhBqLS:BC1BoBL0DEBmEkBZGZL4CDFCFCFCCjBLBZBSBBBOCNiB6DlC0BrIcDwBvBfNdFlBKdCjBEHBEq",
    "B9ESjBEjBEnBIzBMKBOBGBBBKBOBGBBjC2JJVKHYFBpBBIlCFCABrBBBDACWKWJehCSBBKVKZmC3BGBgCAPDBCBcqBcD",
    "cjBHBbb1BKVKSNRuDoC3ByBNyBNjB8KpBGBuCcKAIVqBRuBUbWM0B5BBCANsBgBYajBdACAIiBDAMvBODVABAjBRBYTB",
    ":BGBABDBOBJHuBmBHCBCVBGBBBEDASAME.E0BSDUCevBUBBA4FuBpBDkBvBUA7BqBNAnCalBG5FrB0D:BfHCACHBBBXP",
    "ABA.CHCmBQABAcAKnBHAVALtBTASoCnIIBkBRAxBdwDGBBBlBVAZFBBBfOAnKSPABMBhB8DAvC5cmDuDRjGsyCgDPvhB",
    "RF59DmS5tI4RHeRuCRdSvBQDfUFSwV:BgEqCFAiCMgCBBAc3:FI1mBqBIn3IDBGBBBiJPAdCCAODIrMkoCqDFMDIHJm7",
    "F0CBmCBBCACBCDBLBABGBgCBDCHBGBbBDBEBADGBzKCYBYBeBYBeBYBeBYBeBYBH05BeGFlI9ByEsBKGQAhKdSrBkPb0",
    "XGBDBBBOBkG7BjCHA0lBDBaBBBACABJBDBABAGAEABABABCBBBACABABABABABBBACDBGBDBDBABJBQFCBEBQkqE:2pB",
    "gB5hEG9GCh0FOwpH:gD9QivBq6EF:iE"]⟩,
  ⟨["ideo", "ideographic"], [
    "mgMBZIOCle:tGgC:vUgoWtLCpDqodAb3:FI1mBqBInjJrMkoT:2pBgB5hEG9GCh0FOwpH:gD9QivBq6EF:iE"]⟩,
  ⟨["joinc", "joincontrol"], ["sgIB"]⟩,
  ⟨["loe", "logicalorderexception"], ["gyDE7DEw3CCCA6nkBBCABB"]⟩,
  ⟨["lower", "lowercase"], [
    "hDZvBAKAEAkBXBHBABABABABABABABABABABABABABABABABABABABABABABABABABABABBBABABABABABABABBBABAB",
    "ABABABABABABABABABABABABABABABABABABABABACABABCCABACADBEACADCCACABABACABBBACADABACBCCGACACAB",
    "ABABABABABABABBBABABABABABABABABBCABADABABABABABABABABABABABABABABABABABABABABABABABABABABAB",
    "ABABGCACBBAEABABABABkCBjBHBeEgDArBABADACDSAbiBBBDCBABABABABABABABABABABABEBACACBzBvBBABABABA",
    "BABABABABABABABABABABABABAJABABABABABABABABABABABABABABABABABABABABABABABABABABACABABABABABA",
    "BBBABABABABABABABABABABABABABABABABABABABABABABABABABABABABABABABABABABABABABABABABABABABABA",
    "BABABAwBoBn6CqBBD4XFikCI3D:FhCABABABABABABABABABABABABABABABABABABABABABABABABABABABABABABAB",
    "ABABABABABABABABABABABABABABABABABABABABABABABABABABABABABABABABABABABABABABABABABABABIBABAB",
    "ABABABABABABABABABABABABABABABABABABABABABABABABABABABABABABABABABABABABABABABABABABABABABAB",
    "IIFKHIHIFKHIHINCHIHIHIEBBGADCBBIDCBIHKCBB5DANAQMtDADBDAbAEAEACBIDEAhBPEAraZm6BvBBADBBABABAEA",
    "BBBHDABABABABABABABABABABABABABABABABABABABABABABABABABABABABABABABABABABABABABABABABABABABA",
    "BABABABABABBHABAEAMlBBAFAzoeABABABABABABABABABABABABABABABABABABABABABABATABABABABABABABABAB",
    "ABABABABClEABABABABABABCBABABABABABABABABABABABABABABABABABABABABABABABABABABABABABABJBABACA",
    "BABABABAEABACABCBABABABABABABABABABAFAFABABABABABABABAEABAGABABABABAYCBABC1ZqBBNGvCg6TGMEphB",
    "ZtmBnBoEjB7EKBOBGBBjOACCBpBBIloByBt.CfgsVf6sZZaGBRaZaDBABGBKaZaZaZaZaZaZaZaZabcYBFaYBFaYBFaY",
    "BFaYBFBA05BJBTGFlI9B0lChB"]⟩,
  ⟨["math"], [
    "rBAQCfAdABAtBAEAlBAfA4WCCAaBCCvQCtwGAbCLADANAODVELEhCMEADBEESAEACJBACFGADBCBBCBFDNBAkCXBFBBE",
    "BEfBAGBOrIIDUB6CAeaBAYALG9NBMJEFEBCBDEOABACFLHFB5BABAdDJCwK:BgI:PwBUCF8.zBA3ZFBAiFAQCdABAdAB",
    "AjEAGDzg1B0CBmCBBCACBCDBLBABGBgCBDCHBGBbBDBEBADGBzKCjJCxBgwFDBaBBBACABJBDBABAGAEABABABCBBBAC",
    "ABABABABABBBACDBGBDBDBABJBQFCBEBQ0BB"]⟩,
  ⟨["nchar", "noncharactercodepoint"], [
    "wu:BfuQB.::BB.::BB.::BB.::BB.::BB.::BB.::BB.::BB.::BB.::BB.::BB.::BB.::BB.::BB.::BB.::BB"]⟩,
  ⟨["oalpha", "otheralphabetic"], [
    "wtBNBABBBBBAoCKwBMBGQAlDGEDCBEAjBAePmDKlDBDIBCBDnFLDGGT2BBCOBBFCKBdC6BGCBCBKAKBdC6BEEBCBEAeB",
    "DALC6BHBCBBVBWCEC6BGCBCBJBKBeA7BEDCBCKAoBE5BGBCBCIBLBdC6BGBCBCIBLBPAMD6BGBCBCKAKBdCrCFBABHSB",
    "9BACGSAjDACFBBQAjFSJKBjBuDLBACDXDECBCCGDDNLBAKD0zBBeBeBeBiCS8FBiBA2DLEI.GE5BJCTqCBLCxBEwBO8B",
    "CeICB5BKyBSwNNh2BzB2nCf0jeHiBBiLAIAXE4CByBPBA5BAmBEcLtBDwBLlBAjCNMAIBtBCyBABCCBFAsBEFAtHHz5T",
    "A3iCEm0BCBBFD0YDjMBzKC1BNtBBLCtBIJA9BCkBLSB5BCwBMOB8CICAGACA9EJXD6BGCBCBKAKBxGMBCqDRtHGCGdBy",
    "COBAqDKnDNhIM3HFBBCBDABAuEGCFEAcJqBEBDSKuBN3MHBGzCVBN6DFDABBBCBADAiCEBBBD8KDJBBAwBGDCugUAB2B",
    "HD9CBslTAh7IGBQCGBBBEkDA3lCAo:BZGZGZ"]⟩,
  ⟨["odi", "otherdefaultignorablecodepoint"], ["vaAvwDBzyBBvlCA.nEA7xzBAvCInggaABdgD:DwHvwD"]⟩,
  ⟨["ogrext", "othergraphemeextend"], [
    ".tCAYAmLAYAmDAYAqHASBnDAYA3DAPA1qDA2mBAhhEBu7zBB.8EAYA4KAMAxHAgcA0huBAIEt1rY:C"]⟩,
  ⟨["oidc", "otheridcontinue"], ["3FAvWAh:DIozBA"]⟩,
  ⟨["oids", "otheridstart"], ["lkGBxkCAVAs7DB"]⟩,
  ⟨["olower", "otherlowercase"], [
    "qFAPA1PIHBeEgDA0BAhsDAvhD.BNAiBkBxVANAQMzGPwaZy8BB.weByGAhECDBibDJA2gXACCBpBBI1j2B9B"]⟩,
  ⟨["omath", "othermath"], [
    ".CAxbCCAaBCBghHAbCLAgBDYBOBhCMEADBEESAEACJBADEGADBCBBCBFDDFErCECDBBBBBABECBEBERCBBABGBAGBiJD",
    "oFBBAYARA9NBMIFEFBCBDEOABACFYB5BABAdDJB2KBfJzMV:BDgBBjj1BABAEAzGABAhm1B0CBmCBBCACBCDBLBABGBg",
    "CBDCHBGBbBDBEBADGBzKCYBYBeBYBeBYBeBYBeBYBHCxBgwFDBaBBBACABJBDBABAGAEABABABCBBBACABABABABABBB",
    "ACDBGBDBDBABJBQFCBEBQ"]⟩,
  ⟨["oupper", "otheruppercase"], ["grIPmaZgjzDZGZGZ"]⟩,
  ⟨["patsyn", "patternsyntax"], [
    "hBOKGaDBAaDiBGBABBBABBEAEADAXAfA44HXIOCSBJxJvWgF1TerjBgQ:DhMCEYPAtozBBlIB"]⟩,
  ⟨["patws", "patternwhitespace"], ["JESAkDAo8HBYB"]⟩,
  ⟨["pcm", "prependedconcatenationmark"], ["gwBF3GAxBAgMBwCA6.hCAPA"]⟩,
  ⟨["qmark", "quotationmark"], ["iBAEAjEAPA86HHZBnwDApODNChxzBD9FAEA6CB"]⟩,
  ⟨["radical"], ["g0LZB4CM1G"]⟩,
  ⟨["ri", "regionalindicator"], ["mv8DZ"]⟩,
  ⟨["sterm", "sentenceterminal"], [
    "hBAMAQApqBAzEC0FArBC2HA9BABADBlJBk3BB2YAEBlYAmGBsGAFA6JBiLDuFBCBdB8FBhCB8dBJCkvDANAWBtNA8ndA",
    "uIBjHADA.LB2CB:CA4EBzECwEB5HAmzUADBpFAMAQAhCA03CB9nBEsBD9FB1DD:DChEBGAQB4CBBBsDAhNB1LBFOpDB5",
    "HClQABA7HB3CBkNB0VBqCBp5SBlEAhCBLAzaAmwTAovHA"]⟩,
  ⟨["sd", "softdotted"], [
    "pDBkGA5IAeA0BAUAgKAiDABApoGAzBANADAkEA9EAlNA2GBy5CAl9pDByBByBByBByBByBByBByBByBByBByBByBByBB",
    "mkCAxJBaA"]⟩,
  ⟨["term", "terminalpunctuation"], [
    "hBAKABALBDA.ZAIAhQA5BAoCAOABC0FArBKBArHB2BOfAlIB0nBBsFAEF3JB1YHlYA8DCnCB9ECDAnBDCB6JBiLDuFBB",
    "CdB8FE.BB8dBJCkvDANAEAKABBDBsNB7ndBtICjHE.LB2CB:CA3ECzEC:DAQB5HAkzUCBDpFAKABALBDAhCACA6hBAwB",
    "AmkBAnGA2JB4EFkCF5CD4dEsBD9FGwDD:DChEBGAQB4CEsDAhNCMBmLDDOpDB5HClQABA7HB3CBEB.MCtBAlUBqCBrpB",
    "E5vRBlEAhCCKAyaBmwTAnvHD"]⟩,
  ⟨["uideo", "unifiedideograph"], [
    "ggN:tGgC:vUuwWBBABBKABABBCC2uhC:2pBgB5hEG9GCh0FOwpH:gFq6EF:iE"]⟩,
  ⟨["upper", "uppercase"], [
    "hCZlDWBGhBABABABABABABABABABABABABABABABABABABABABABABABABABABABACABABABABABABABACABABABABAB",
    "ABABABABABABABABABABABABABABABABABABBBABADBBABBBCCDBBBCDBBBBABABBBACABBBCBABBDAHACACACABABAB",
    "ABABABABACABABABABABABABABACACABCBABABABABABABABABABABABABABABABABABABABABABABABABABABABABAH",
    "BBBCABDBABABABAhJABADAIAGABCBABBBQBIjBACCDABABABABABABABABABABABAFACABBCyBwBABABABABABABABAB",
    "ABABABABABABABABAJABABABABABABABABABABABABABABABABABABABABABABABABABABABBBABABABABABACABABAB",
    "ABABABABABABABABABABABABABABABABABABABABABABABABABABABABABABABABABABABABABABABABABABABABAClB",
    "p6ClBBAFAyW1C6kCqBCCgKABABABABABABABABABABABABABABABABABABABABABABABABABABABABABABABABABABAB",
    "ABABABABABABABABABABABABABABABABABABABABABABABABABABABABABABABABABABABABABABABAJABABABABABAB",
    "ABABABABABABABABABABABABABABABABABABABABABABABABABABABABABABABABABABABABABABABABABABAJHIFKHI",
    "HIFLABABABAIHoCDMDMDMELDmIAEADCCCCADEGABABABDCDKBFAaPTAyZZw5BvBwBABCCABABABDBACAICBABABABABA",
    "BABABABABABABABABABABABABABABABABABABABABABABABABABABABABABABABABABABABABABABABABABABABAIABA",
    "EAtqeABABABABABABABABABABABABABABABABABABABABABABATABABABABABABABABABABABABABAnEABABABABABAB",
    "ADABABABABABABABABABABABABABABABABABABABABABABABABABABABABABABAKABABBBABABABAEABACABADABABAB",
    "ABABABABABABABEBEBABABABABABABABDBAGAFABAcAr5VZlmBnBoEjB8EKBOBGBBq3ByBt:CfgsVfgtZZaZaZaABBCA",
    "CBCDBHaZaBBDCHBGbBBDBEBADGbZaZaZaZaZaZeYhBYhBYhBYhBYhBA1pEhBugCZGZGZ"]⟩,
  ⟨["vs", "variationselector"], ["rgGCBAwv5BPw3gavH"]⟩,
  ⟨["wspace", "whitespace", "space"], ["JESAkDAaA:uFA:rCKdBFAvBAg9DA"]⟩,
  ⟨["xidc", "xidcontinue"], [
    "wBJHZEABZvBAKABACAFWBeBpOELOEHABAR0DBBDCBAGEBABTByCBqEBEClFBlBCAGoBIsBBABBBBBAIaEDdKFpCElDBH",
    "CJBSCAQ6BCkDO1BEACACtBSbEKFXBFJpCBgECJBSBHCBCVBGBADDCICBCDIAEBBECLKABACCBFEBCVBGBBBBBBCABEEB",
    "CCDAHDBAHPLCBIBCBVBGBBBECJBCBCCAPDCJJGBCBHCBCVBGBBBECICBCCHCEBBECJBAQBBFDCBDDBBABBDBDCDLEEDC",
    "BDCAGAOJQMBCBWBPCIBCBDHBBCCACDCJQDBHBCBWBJBECIBCBDHBGBBDCJBCMMBCByBBCBEFDHECJKFBCBRDXBIBACGD",
    "AEFBABHGJCBN5BFOBJnBBBABEBXBABWCEBABGBJCDgBAXBGJLABABAEJBjBETBRBjBJA5BpCGtCClBBAFACqBBsKBDCG",
    "BABDCoBBDCgBBDCGBABDCOB4BBDCiCCCJIOPQ1CCFDrTCQBZFqCDKHVJVLTMMBCBBMzCDAEBCJhBCBKG4CHqBFlCKeBL",
    "ELKnBCELrBEZGKlBbE.BBcCKGJNAINBPxBsCDJRIMzDM3BIJDwBCIHqBCCQCBmBF1QCFClBCFCHBABABABeC0BBGBADC",
    "BGDDCFEMFCBGiCBTAcANAQMzBMEADLRAEACJBACFGABABABPCDFEEARoB3zCkHGIMlBBAFAC3BHAPXJGBGBGBGBGBGBG",
    "BGBflQCZOBECEE1CCBCCB5CBDFqBB9CRfwBPgQ:tGgCs0VjCtBCsIDbUvBEJByDlBICmDC:BFBBABEY1BEATzBMlCKJG",
    "XDABwBCjBMcDgCOKGeB2BJNCJGWDoCYCCPCEKFCFCFJGBGBqBBNG6DBBCJGj9KMWEwBkoItLCpDmBGMEFLBMBEBABBBB",
    "BrDhBqEG5GS:BC1BoBJGPQPDBYChBABADABABABAB9DTJHZEABZL4CDFCFCFCCjBLBZBSBBBOCNiB6DlC0BoEAiEcDwB",
    "PAffNdFqBFdCjBEHBEqB9ECJGjBEjBEnBIzBMKBOBGBBBKBOBGBBjC2JJVKHYFBpBBIlCFCABrBBBDACWKWJehCSBBKV",
    "KZmC3BGBgCDBBFHBCBcCCEAgBcDcjBHBdZ1BKVKSNRuDoC3ByBNyBNnBIJmKpBBBDBrCfKAIgBfVqBUbWJmCfPJ7BHAN",
    "YHJG0BBJEDIjBCAJkCEDBMBAjBRBkBGD.BGBABDBOBJH6BFJGDBHCBCVBGBBBEBJCBCCCAGAFGCGDErEqCFJEDelCBAI",
    "JmF1BCIXFiBgCDALJmB4BHJ2BaCOEJGG5F6BlDpCVHCACHBBBdBBCIMJmCHCtBCHBBb.BIAIpCDASoCnIIBsBBIPJYdC",
    "VBNpCGBBBrBDABBBIIJGFBBBkBBBBFHJ2JWJQBoBDENJ2CAvC5cmDuDRjGsyCgDPvhBQVq9DmS5tI4RHeBJGuCBJGdCE",
    "L2BJDMJJUFSwV:BgEqCE4BHQgCBBBLBO3:FI1mBqBIn3IDBGBBBiJPAdCCAODIrMkoCqDFMDIHJDBhzEtBCW.QEDFIHC",
    "GeD0EC7N0CBmCBBCACBCDBLBABGBgCBDCHBGBbBDBEBADGBzKCYBYBeBYBeBYBeBYBeBYBHCxBgQ2BExBIAOAWEBOwiB",
    "eGF1GGBQCGBBBEF9BhBAwDsBDNCJEAhKeR5B2OpBmXGBDBBBOBkGLGpBrCEJmlBDBaBBBACABJBDBABAGAEABABABCBB",
    "BACABABABABABBBACDBGBDBDBABJBQFCBEBQ0pDJmgB:2pBgB5hEG9GCh0FOwpH:gD9QivBq6EF:iEwq3VvH"]⟩,
  ⟨["xids", "xidstart"], [
    "hCZGZvBAKAEAFWBeBpOELOEHABAhEEBBDCBAGABCBABTByCBqEIlFBlBCAGoBnCaEDtBqBjBBBiDBAPBHBKCCAQABdd4",
    "CLAYgBJBEAFVEAJADAXYHKFXBFRpB6B1BDASAHJPPEHCBCVBGBADDDAQANBBCOBKAIFEBCVBGBBBBBBfDBATCQIBCBVB",
    "GBBBEDASAPBXALHCBCVBGBBBEDAeBBCPARABFDCBDDBBABBDBDCDLWA0BHBCBWBPDAaCCACBeAEHBCBWBJBEDAfBBBPB",
    "RIBCBoBCAQAFCICYFFRDXBIBACG6BvBBANG6BBBABEBXBABJBAKACEBAVDgBA:BHBjBbEzDqBUAQFEDDADBHCEMMARlB",
    "BAFACqBBsKBDCGBABDCoBBDCgBBDCGBABDCOB4BBDCiClBPQ1CCFDrTCQBZFqCDKHRNSOROMBCPzBjBAEAjC4CHoBBAF",
    "lCKexBdCELrBEZ2BWJ0ByCA9CuBRH2BdNBKrBajBpBCKjBCIHqBCCpBDBFBBDAF:FgC1ICFClBCFCHBABABABeC0BBGB",
    "ADCBGDDCFEMFCBG0DANAQMlDAEACJBACFGABABABPCDFEEARoB3zCkHGDDBMlBBAFAC3BHAQWJGBGBGBGBGBGBGBGmRC",
    "ZIHECEE1CGCB5CBDFqBB9CRfwBPgQ:tGgCs0VjCtBCsIDPKBUuBQeCvCnBICmDC:BFBBABEYPBCBDBWdzBOxB.BFDABB",
    "LbKWZcHuBcAQEBJKEBoBXCBHUWDADxBBADBCECABAYCCKHCMFCFCFJGBGBqBBNGyDdj9KMWEwBkoItLCpDmBGMEFABJB",
    "MBEBABBBBBrDhBqEG5GS:BC1BoBJ3DABADABABABAB9DkBZGZL3BCeDFCFCFCCjBLBZBSBBBOCNiB6DlC0BrIcDwBvBf",
    "NdFlBKdCjBEHBEqB9ESjBEjBEnBIzBMKBOBGBBBKBOBGBBjC2JJVKHYFBpBBIlCFCABrBBBDACWKWJehCSBBKVKZmC3B",
    "GBgCAPDBCBcqBcDcjBHBbb1BKVKSNRuDoC3ByBNyBNjB8KpBGBuCcKAIVqBRuBUbWM0B5BBCANsBgBYajBdACAIiBDAM",
    "vBODVABAjBRBYTB:BGBABDBOBJHuBmBHCBCVBGBBBEDASAME.E0BSDUCevBUBBA4FuBpBDkBvBUA7BqBNAnCalBG5FrB",
    "0D:BfHCACHBBBXPABA.CHCmBQABAcAKnBHAVALtBTASoCnIIBkBRAxBdwDGBBBlBVAZFBBBfOAnKSPABMBhB8DAvC5cm",
    "DuDRjGsyCgDPvhBRF59DmS5tI4RHeRuCRdSvBQDfUFSwV:BgEqCFAiCMgCBBAc3:FI1mBqBIn3IDBGBBBiJPAdCCAODI",
    "rMkoCqDFMDIHJm7F0CBmCBBCACBCDBLBABGBgCBDCHBGBbBDBEBADGBzKCYBYBeBYBeBYBeBYBeBYBH05BeGFlI9ByEs",
    "BKGQAhKdSrBkPb0XGBDBBBOBkG7BjCHA0lBDBaBBBACABJBDBABAGAEABABABCBBBACABABABABABBBACDBGBDBDBABJ",
    "BQFCBEBQkqE:2pBgB5hEG9GCh0FOwpH:gD9QivBq6EF:iE"]⟩]

end Conformance.Unicode
