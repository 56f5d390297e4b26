import Gutd.Shared.Words

set_option autoImplicit false

namespace Rfc9000

open Bytes

structure LongHeader where
  first : UInt8
  version : UInt32
  dcid : Buf
  scid : Buf
  rest : Buf
  deriving DecidableEq

def parseLong : Buf → Option LongHeader
  | first :: v0 :: v1 :: v2 :: v3 :: dcidLen :: tail =>
      if first &&& 0x80 = 0 then none
      else
        match tail.drop dcidLen.toNat with
        | [] => none
        | scidLen :: behind =>
            if behind.length < scidLen.toNat then none
            else
              some
                { first
                  version := le32 v3 v2 v1 v0
                  dcid := tail.take dcidLen.toNat
                  scid := behind.take scidLen.toNat
                  rest := behind.drop scidLen.toNat }
  | _ => none

def versionList : Buf → Option (List UInt32)
  | [] => some []
  | v0 :: v1 :: v2 :: v3 :: rest => (versionList rest).map (le32 v3 v2 v1 v0 :: ·)
  | _ => none

structure VersionNegotiation where
  dcid : Buf
  scid : Buf
  versions : List UInt32
  deriving DecidableEq

def parseVersionNegotiation (data : Buf) : Option VersionNegotiation := do
  let header ← parseLong data
  if header.version ≠ 0 then none
  else do
    let versions ← versionList header.rest
    some { dcid := header.dcid, scid := header.scid, versions }

theorem parseLong_append {first v0 v1 v2 v3 dcidLen scidLen : UInt8} {dcid scid : Buf} (rest : Buf) (long : first &&& 0x80 ≠ 0)
    (dcidWidth : dcid.length = dcidLen.toNat) (scidWidth : scid.length = scidLen.toNat) :
    parseLong (first :: v0 :: v1 :: v2 :: v3 :: dcidLen :: (dcid ++ scidLen :: (scid ++ rest))) =
      some { first, version := le32 v3 v2 v1 v0, dcid, scid, rest } := by
  rw [parseLong, if_neg long, ← dcidWidth, List.drop_left, List.take_left]
  dsimp only
  rw [if_neg (by simp [← scidWidth]), ← scidWidth, List.drop_left, List.take_left]

end Rfc9000
