import Conformance.Unicode.CodePoints

/-!
# Simple case folding

Two characters differ in case only if they fold to the same code point. Folding is simple here: one
code point to one code point. The data are those of Unicode 15.0.

* `Conformance.Unicode.fold` – what a code point folds to;
* `Conformance.Unicode.orbit` – all code points that fold to the same one.
-/

namespace Conformance.Unicode

/-- A run of code points with the same distance to what they fold to. -/
structure FoldRun where
  /-- The first code point. -/
  first : Nat
  /-- The number of further code points. -/
  extent : Nat
  /-- The distance between neighbours: one or two. -/
  stride : Nat
  /-- The distance from a code point to what it folds to. -/
  offset : Int
deriving Repr

/-- The runs in packed form: by turns the distance of the first code point from the one of the run
before, the number of further code points doubled, plus one if every other code point is left out,
and the offset, doubled if it is not negative, else its double without the sign less one. -/
def packedFoldRuns : List String := [
  "hCyBgC0DAuwBLsBgCYMgCoBvBCyBFCHPCRtBCuBAxHBFCGA3QCAkNBDCEA8MBACCC6MCACDA.EBA0MBA2MBACCA6MBA.MC",
  "AmNBAiNBACEAmNBAqNCAsNBFCGA0NBACCA0NDACCA0NBACCCyNCDCEA2NBACEACIAEBACCAEBACCAEBRCTRCTAEBDCEAhG",
  "BAvDBnBCoBAjICRCYA2iVBACCAlKBAwiVDACCAlMBAqEBAuEBJC:HAoHrBDCGACJAoHHAsCCEqCEAgECC.DDgBgCSQgCfA",
  "CNAQBA7BBAxBEAdBArBCXCYArDBA:CDA3DBA:DCACCANBACDEjIDegFQ.BgCwChBCqB1BC2BAeBNCP:CChDqCgDv7CqCgm",
  "OnBAgmOGAgmOrZKPokCA7kMBA5kMBAnkMBCjkMCAlkMBA3jMBAniMBAm8kCI0C:7FtBE:7FjK1EC7EAzDDA97OC:CCoDOP",
  "QKPQOPQOPQKPRHPPOPgBOPQOPQOPQCPCCzECARCApgOKGrFEARMCPCCnGOCPCC:GCANMC:HCC7HCARqJA51OEA9rQBArkQ",
  "HA4BuBegBjBACzZyB0Bq6B.CgDgDACCAt:UBAruHBAt.UDFCGA3hVBA5:UBA9hVBA7hVCACDACJC9jVCjDCrDDCHACuqet",
  "BCgCbCiFNCQ9BCnCDCEAnglCBJCNACCAvyyCDDCGTCUAn0yCBA90yCBA10yCBAh0yCBAn0yCCAjxyCBAzyyCBApxyCBAg6",
  "BBPCQA:CBAl0yCBAvjlCBDCJACGDCfAC7b.E:8rCx9UyBgC:mBuCwCwFmCwCgGUuCMcuCQMuCICuCs3BkDgEghD.BgCgtV",
  ".BgCg2eiCkC"]

/-- The runs that numbers describe. -/
def unpackFoldRuns (start : Nat) : List Nat → List FoldRun
  | gap :: size :: shift :: rest =>
    let offset : Int := if shift % 2 = 0 then (shift / 2 : Nat) else -((shift / 2 + 1 : Nat) : Int)
    ⟨start + gap, size / 2, size % 2 + 1, offset⟩ :: unpackFoldRuns (start + gap) rest
  | _ => []

/-- The runs of all code points that fold to another one. -/
def foldRuns : List FoldRun := unpackFoldRuns 0 (unpackLines packedFoldRuns)

namespace FoldRun

/-- Whether a code point is in the run. -/
def contains (r : FoldRun) (n : Nat) : Bool :=
  r.first ≤ n && n ≤ r.first + r.extent * r.stride && (n - r.first) % r.stride == 0

/-- What a code point of the run folds to. -/
def target (r : FoldRun) (n : Nat) : Nat := ((n : Int) + r.offset).toNat

/-- The code point of the run that folds to another one, if there is one. -/
def source? (r : FoldRun) (n : Nat) : Option Nat :=
  let m := ((n : Int) - r.offset).toNat
  if r.contains m && r.target m == n then some m else none

end FoldRun

/-- What a code point folds to. -/
def fold (n : Nat) : Nat :=
  match foldRuns.find? (·.contains n) with
  | some r => r.target n
  | none => n

/-- All code points that fold to the same code point as this one does. -/
def orbit (n : Nat) : List Nat :=
  let t := fold n
  t :: foldRuns.filterMap (·.source? t)

end Conformance.Unicode
